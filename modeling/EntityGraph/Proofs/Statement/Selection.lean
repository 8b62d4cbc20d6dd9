import EntityGraph.Proofs.Outcome
import EntityGraph.Proofs.Statement.Clauses
/-!
# The lines that select entities

Every line that `matching` gives is a line of clause tokens, whatever the
schema and the request are, and so is what each relationship field adds to a
search but for the name of its column.
-/

namespace EntityGraph.Statement

open Cypher
open Text (join)

/-! ### Names that were checked -/

theorem Identifier.text_of_ofText {what value : String} {i : Identifier}
    (h : Identifier.ofText what value = .ok i) : i.text = value := by
  unfold Identifier.ofText at h
  split at h
  · cases h
    rfl
  · simp at h

theorem Identifier.isName_of_ofText {what value : String} {i : Identifier}
    (h : Identifier.ofText what value = .ok i) : EntityGraph.isName value = true :=
  Identifier.text_of_ofText h ▸ i.isName

theorem Identifier.ofText_of_isName (what : String) {value : String}
    (h : EntityGraph.isName value = true) : Identifier.ofText what value = .ok ⟨value, h⟩ :=
  dif_pos h

theorem NodePattern.variableName_of_withLabel {variableName : String} {label : Option String}
    {node : NodePattern} (h : NodePattern.withLabel variableName label = .ok node) :
    node.variableName = variableName := by
  unfold NodePattern.withLabel at h
  split at h
  · cases h
    rfl
  · split at h
    · cases h
      rfl
    · obtain ⟨i, -, rfl⟩ := map_eq_ok.1 h
      rfl

/-! ### Conditions -/

/-- Lines joined by a word are a line. -/
theorem spelled_join (word : String) (hword : IsClauseWord word) {first : String}
    {more : List String} (h : ∀ part ∈ first :: more, IsSpelled IsClauseToken part.toList) :
    IsSpelled IsClauseToken (join (" " ++ word ++ " ") (first :: more)).toList := by
  induction more generalizing first with
  | nil => exact h first (by simp)
  | cons next more ih =>
    have htail := ih fun part hpart => h part (List.mem_cons_of_mem first hpart)
    have hjoined := ((h first (by simp)).space (spelled_word word hword)).space htail
    simpa [join] using hjoined

theorem spelled_whereLines {conditions : List String}
    (h : ∀ c ∈ conditions, IsSpelled IsClauseToken c.toList) :
    ∀ line ∈ whereLines conditions, IsSpelled IsClauseToken line.toList := by
  intro line hline
  cases conditions with
  | nil => simp [whereLines] at hline
  | cons first more =>
    obtain rfl : line = "WHERE " ++ join " AND " (first :: more) := by simpa [whereLines] using hline
    have hjoined : IsSpelled IsClauseToken (join " AND " (first :: more)).toList :=
      spelled_join "AND" (by decide) h
    have hwhere := (spelled_word "WHERE" (by decide)).space hjoined
    simpa using hwhere

/-- A condition of one stored property. -/
theorem spelled_storedClause {storedName : Identifier} {parameter : String}
    (hparameter : isName parameter = true) (value : FilterValue) :
    IsSpelled IsClauseToken (storedClause storedName parameter value).condition.toList := by
  have hproperty : IsSpelled IsClauseToken _ :=
    spelled_property "n" (by decide) storedName.isName
  have hdollar := spelled_parameter hparameter
  have hequal := (hproperty.space (spelled_operator '=' (by decide))).space hdollar
  cases value with
  | text s =>
    have hbody : IsGroupBody ("n." ++ storedName.text).toList :=
      isGroupBody_of_isInner (IsInner.append (by simp [IsInner]; decide) storedName.isInner)
    have hcall : IsSpelled IsClauseToken _ := spelled_call "toLower" (by decide) hbody
    have h := (hcall.space (spelled_word "CONTAINS" (by decide))).space hdollar
    simpa [storedClause] using h
  | oneOf texts =>
    have h := (hproperty.space (spelled_word "IN" (by decide))).space hdollar
    simpa [storedClause] using h
  | enum _ | integer _ | float _ | boolean _ | datetime _ =>
    simpa [storedClause, storedClause.equal] using hequal

/-- A condition of linked nodes, and the line that matches these. -/
theorem spelled_linkedClause {field : Field} {link : Link} {parameter : String}
    {texts : List String} {clause : FilterClause} (hparameter : isName parameter = true)
    (h : linkedClause field link parameter texts = .ok clause) :
    IsSpelled IsClauseToken clause.condition.toList ∧
      ∀ line ∈ clause.matching, IsSpelled IsClauseToken line.toList := by
  unfold linkedClause at h
  split at h
  · obtain ⟨targetField, -, h⟩ := bind_eq_ok.1 h
    obtain ⟨target, htarget, h⟩ := bind_eq_ok.1 h
    obtain ⟨types, -, h⟩ := bind_eq_ok.1 h
    obtain rfl := pure_eq_ok.1 h
    have hvariable : IsInner target.variableName := by
      rw [NodePattern.variableName_of_withLabel htarget]
      exact IsInner.append (isInner_of_isName (by decide)) (isInner_of_isName hparameter)
    constructor
    · have hbody : IsGroupBody (target.variableName ++ "." ++ targetField.text).toList :=
        isGroupBody_of_isInner
          ((hvariable.append (by simp [IsInner]; decide)).append targetField.isInner)
      have hcall : IsSpelled IsClauseToken _ := spelled_call "toLower" (by decide) hbody
      have hin := (hcall.space (spelled_word "IN" (by decide))).space (spelled_parameter hparameter)
      simpa using hin
    · intro line hline
      cases hline
      have hedge : IsSpelled IsClauseToken _ := spelled_edgeFromNode types link.direction hvariable
      have hmatch := (spelled_word "MATCH" (by decide)).space hedge
      simpa using hmatch
  · simp at h

theorem spelled_filterClause {f : Filter} {clause : FilterClause}
    (h : filterClause f = .ok clause) : IsSpelled IsClauseToken clause.condition.toList ∧
      ∀ line ∈ clause.matching, IsSpelled IsClauseToken line.toList := by
  obtain ⟨parameter, -, h⟩ := bind_eq_ok.1 h
  split at h
  · exact spelled_linkedClause parameter.isName h
  · obtain ⟨storedName, -, h⟩ := bind_eq_ok.1 h
    obtain rfl := pure_eq_ok.1 h
    refine ⟨spelled_storedClause parameter.isName _, ?_⟩
    cases f.value <;> simp [storedClause, storedClause.equal]

/-! ### Matching -/

theorem isGroupBody_join {sep : String} (hsep : IsGroupBody sep.toList) {parts : List String}
    (h : ∀ part ∈ parts, IsGroupBody part.toList) : IsGroupBody (join sep parts).toList := by
  refine Text.join_induction (P := fun s => IsGroupBody s.toList) .nil (fun s t hs ht => ?_) h
  simpa using (hs.append hsep).append ht

/-- The condition of free text is one group. -/
theorem isGroup_textCondition (fields : List Identifier) :
    IsGroup (textCondition fields).toList := by
  have hparens {cs : List Char} (h : IsGroupBody cs) : IsGroupBody ('(' :: (cs ++ [')'])) :=
    .group (by decide : closer? '(' = some ')') h .nil
  have hfield (field : Identifier) : IsGroupBody
      ("toLower(toString(n." ++ field.text ++ ")) CONTAINS $text_search").toList := by
    have hproperty : IsGroupBody ("n." ++ field.text).toList :=
      isGroupBody_of_isInner (IsInner.append (by simp [IsInner]; decide) field.isInner)
    have htoString : IsGroupBody "toString".toList := isGroupBody_of_all (by decide)
    have htoLower : IsGroupBody "toLower".toList := isGroupBody_of_all (by decide)
    have hcontains : IsGroupBody " CONTAINS $text_search".toList := isGroupBody_of_all (by decide)
    have h := (htoLower.append (hparens (htoString.append (hparens hproperty)))).append hcontains
    simpa using h
  have hor : IsGroupBody " OR ".toList := isGroupBody_of_all (by decide)
  have h := isGroup_parens
    (isGroupBody_join hor (List.forall_mem_map.2 fun field (_ : field ∈ fields) => hfield field))
  simpa [textCondition] using h

theorem spelled_textClause {s : Schema} {r : SearchRequest} {text : Option (String × String)}
    (h : textClause s r = .ok text) {t : String × String} (ht : t ∈ text) :
    IsSpelled IsClauseToken t.1.toList := by
  unfold textClause at h
  split at h
  · cases h
    simp at ht
  · simp only at h
    split at h
    · cases h
      simp at ht
    · obtain ⟨names, -, rfl⟩ := map_eq_ok.1 h
      cases ht
      exact spelled_group (isGroup_textCondition names)

/-- **All lines that select entities are lines of clause tokens.** -/
theorem spelled_matchingLines {s : Schema} {r : SearchRequest} {m : Matching}
    (h : Statement.matching s r = .ok m) :
    ∀ line ∈ m.lines, IsSpelled IsClauseToken line.toList := by
  obtain ⟨text, htext, h⟩ := bind_eq_ok.1 h
  obtain ⟨clauses, hclauses, h⟩ := bind_eq_ok.1 h
  obtain ⟨label, -, h⟩ := bind_eq_ok.1 h
  obtain rfl := pure_eq_ok.1 h
  have hclause : ∀ clause ∈ clauses, IsSpelled IsClauseToken clause.condition.toList ∧
      ∀ line ∈ clause.matching, IsSpelled IsClauseToken line.toList := by
    intro clause hclause
    obtain ⟨f, -, hf⟩ := exists_of_mem_mapM hclauses hclause
    exact spelled_filterClause hf
  intro line hline
  rcases List.mem_cons.1 hline with rfl | hline
  · have hnode : IsGroup (labelled label).text.toList := isGroup_node isInner_n
    have hmatch := (spelled_word "MATCH" (by decide)).space (spelled_group hnode)
    simpa using hmatch
  rcases List.mem_append.1 hline with hline | hline
  · obtain ⟨clause, hmem, hline⟩ := List.mem_filterMap.1 hline
    exact (hclause clause hmem).2 line hline
  · refine spelled_whereLines (fun c hc => ?_) line hline
    rcases List.mem_append.1 hc with hc | hc
    · rcases List.mem_append.1 hc with hc | hc
      · split at hc
        · simp at hc
        · obtain rfl := List.mem_singleton.1 hc
          exact spelled_group isGroup_notDeleted
      · obtain ⟨t, ht, rfl⟩ := List.mem_map.1 hc
        exact spelled_textClause htext (by simpa using ht)
    · obtain ⟨clause, hmem, rfl⟩ := List.mem_map.1 hc
      exact (hclause clause hmem).1

/-! ### Relationship fields -/

/-- The relationship fields of a schema with their links. -/
def linkedFields (s : Schema) : List (Field × Link) :=
  s.relationships.filterMap fun field => field.link.map fun link => (field, link)

/-- The column under which a search gives what a relationship field is linked
to. -/
def linkColumn (field : Field) (link : Link) : String :=
  if link.cardinality = .single then field.lowerName else field.collectionAlias

/-- **What a relationship field adds to a search:** a line that matches, an
expression that gathers, and a column. -/
theorem linkClause_spec {field : Field} {link : Link} {clause : LinkClause}
    (h : linkClause field link = .ok clause) :
    IsSpelled IsClauseToken clause.matching.toList ∧
      IsSpelled IsClauseToken clause.expression.toList ∧ isName field.lowerName = true ∧
      clause.column = linkColumn field link := by
  obtain ⟨lowerName, hlower, h⟩ := bind_eq_ok.1 h
  obtain ⟨types, -, h⟩ := bind_eq_ok.1 h
  obtain ⟨target, htarget, h⟩ := bind_eq_ok.1 h
  obtain rfl := pure_eq_ok.1 h
  have hvariable : IsInner target.variableName := by
    rw [NodePattern.variableName_of_withLabel htarget]
    exact (isInner_of_isName (by decide)).append lowerName.isInner
  have hdistinct : IsGroupBody ("DISTINCT " ++ target.variableName).toList :=
    isGroupBody_of_isInner (IsInner.append (by simp [IsInner]; decide) hvariable)
  refine ⟨?_, ?_, Identifier.isName_of_ofText hlower, ?_⟩
  · have hedge := spelled_edgeFromNode types link.direction hvariable
    have hline := ((spelled_word "OPTIONAL" (by decide)).space
      (spelled_word "MATCH" (by decide))).space hedge
    simpa using hline
  · cases link.cardinality with
    | count =>
      have hcall : IsSpelled IsClauseToken _ := spelled_call "count" (by decide) hdistinct
      simpa using hcall
    | collection =>
      have hcall : IsSpelled IsClauseToken _ := spelled_call "collect" (by decide) hdistinct
      simpa using hcall
    | single =>
      have hname : IsGroupBody "collect".toList := isGroupBody_of_all (by decide)
      have hcollect := hname.append
        (.group (by decide : closer? '(' = some ')') hdistinct .nil)
      have hcall : IsSpelled IsClauseToken _ := spelled_call "head" (by decide) hcollect
      simpa using hcall
  · unfold linkColumn
    cases link.cardinality with
    | count | collection => rfl
    | single => exact Identifier.text_of_ofText hlower

theorem linkClauses_spec {s : Schema} {clauses : List LinkClause}
    (h : linkClauses s = .ok clauses) : ∀ clause ∈ clauses,
      IsSpelled IsClauseToken clause.matching.toList ∧
      IsSpelled IsClauseToken clause.expression.toList := by
  intro clause hclause
  obtain ⟨⟨field, link⟩, -, hlink⟩ := exists_of_mem_mapM h hclause
  obtain ⟨hmatching, hexpression, -⟩ := linkClause_spec hlink
  exact ⟨hmatching, hexpression⟩

/-- The columns of the relationship fields, in the order of declaration. -/
theorem columns_linkClauses {s : Schema} {clauses : List LinkClause}
    (h : linkClauses s = .ok clauses) :
    clauses.map (·.column) = (linkedFields s).map fun p => linkColumn p.1 p.2 :=
  map_of_mapM (fun _ _ _ hclause => (linkClause_spec hclause).2.2.2) h

theorem isName_lowerName_of_linkClauses {s : Schema} {clauses : List LinkClause}
    (h : linkClauses s = .ok clauses) :
    ∀ p ∈ linkedFields s, isName p.1.lowerName = true := by
  intro p hp
  obtain ⟨clause, hclause⟩ := exists_of_mapM_eq_ok h hp
  exact (linkClause_spec hclause).2.2.1

end EntityGraph.Statement
