import Mathlib.Data.List.Basic
import EntityGraph.Proofs.Statement.Call
import EntityGraph.Proofs.Statement.Parameters
/-!
# What the lines of statements mention

A mention of a parameter ends before the next line, so a statement mentions what
its lines do, one after the other (`mentions_unlines`). Names, patterns, and what
returns, orders and limits entities are mute. Of a search only the conditions
mention anything, and each of them mentions the parameter that its clause binds,
so what selects entities mentions what it binds and nothing else
(`mem_lineMentions_matching`).
-/

namespace EntityGraph.Statement

open Text (join unlines StopsBefore stopsBefore_cons)

/-! ### Mentions in texts put together -/

/-- **A mention ends at every character that is no part of a name.** -/
theorem mentions_append_cons (cs : List Char) {c : Char} (hc : isNameChar c = false)
    (ds : List Char) : mentions (cs ++ c :: ds) = mentions cs ++ mentions (c :: ds) := by
  induction cs with
  | nil => rfl
  | cons b cs ih =>
    have hrun : (cs ++ c :: ds).takeWhile isNameChar = cs.takeWhile isNameChar := by
      rw [List.takeWhile_append]
      split
      · next hall =>
        rw [List.takeWhile_cons, hc, (List.takeWhile_prefix isNameChar).eq_of_length hall]
        simp
      · rfl
    rw [List.cons_append, mentions, mentions, hrun, ih]
    split <;> rfl

/-- A text that mentions no parameter. -/
def IsMute (s : String) : Prop :=
  '$' ∉ s.toList

instance (s : String) : Decidable (IsMute s) :=
  inferInstanceAs (Decidable (_ ∉ _))

theorem isMute_of_isName {name : String} (h : isName name = true) : IsMute name :=
  dollar_not_mem_of_isName h

theorem Identifier.isMute (i : Identifier) : IsMute i.text :=
  isMute_of_isName i.isName

@[simp] theorem isMute_append {s t : String} : IsMute (s ++ t) ↔ IsMute s ∧ IsMute t := by
  simp [IsMute, not_or]

theorem IsMute.mentions_eq_nil {s : String} (h : IsMute s) : mentions s.toList = [] :=
  Statement.mentions_eq_nil h

/-- What comes before a mute text is not seen in it. -/
theorem IsMute.mentions_append {s : String} (h : IsMute s) (t : String) :
    mentions (s ++ t).toList = mentions t.toList := by
  rw [String.toList_append, Statement.mentions_append h]

theorem isMute_join {sep : String} (hsep : IsMute sep) {parts : List String}
    (h : ∀ part ∈ parts, IsMute part) : IsMute (join sep parts) :=
  Text.join_induction (by decide)
    (fun _ _ hs ht => isMute_append.2 ⟨isMute_append.2 ⟨hs, hsep⟩, ht⟩) h

/-- A separator that ends mentions and has none. -/
structure Separates (sep : String) : Prop where
  isMute : IsMute sep
  stops : ∃ c cs, sep.toList = c :: cs ∧ isNameChar c = false

/-- It ends what the text before it mentions, and adds nothing. -/
theorem Separates.mentions_append {sep : String} (hsep : Separates sep) (s t : String) :
    mentions (s ++ (sep ++ t)).toList = mentions s.toList ++ mentions t.toList := by
  obtain ⟨c, cs, hcs, hc⟩ := hsep.stops
  rw [String.toList_append, String.toList_append, hcs, List.cons_append,
    mentions_append_cons _ hc, ← List.cons_append, ← hcs,
    Statement.mentions_append hsep.isMute]

theorem mentions_join {sep : String} (hsep : Separates sep) (parts : List String) :
    mentions (join sep parts).toList = parts.flatMap fun part => mentions part.toList := by
  induction parts with
  | nil => rfl
  | cons part parts ih =>
    cases parts with
    | nil => simp [join]
    | cons next rest =>
      rw [List.flatMap_cons, ← ih, join, String.append_assoc, hsep.mentions_append]

/-- What lines mention, one after the other. -/
def lineMentions (lines : List String) : List String :=
  lines.flatMap fun line => mentions line.toList

@[simp] theorem lineMentions_nil : lineMentions [] = [] := rfl

@[simp] theorem lineMentions_cons (line : String) (lines : List String) :
    lineMentions (line :: lines) = mentions line.toList ++ lineMentions lines := rfl

@[simp] theorem lineMentions_append (before after : List String) :
    lineMentions (before ++ after) = lineMentions before ++ lineMentions after :=
  List.flatMap_append

theorem lineMentions_eq_nil {lines : List String} (h : ∀ line ∈ lines, IsMute line) :
    lineMentions lines = [] :=
  List.flatMap_eq_nil_iff.2 fun line hline => (h line hline).mentions_eq_nil

theorem mentions_unlines (lines : List String) :
    mentions (unlines lines).toList = lineMentions lines :=
  mentions_join ⟨by decide, '\n', [], rfl, by decide⟩ lines

/-! ### Patterns and lines that mention nothing -/

theorem isMute_node {node : NodePattern} (h : IsMute node.variableName) : IsMute node.text := by
  unfold NodePattern.text
  cases node.label with
  | none => simp +decide [h]
  | some label => simp +decide [h, label.isMute]

theorem isMute_labelled (label : Identifier) : IsMute (labelled label).text :=
  isMute_node (by decide : IsMute "n")

theorem isMute_edge {edge : EdgePattern} (hsource : IsMute edge.source.variableName)
    (hvariable : IsMute edge.variableName) (htarget : IsMute edge.target.variableName) :
    IsMute edge.text := by
  have htypes : IsMute (join "|" (edge.types.map Identifier.text)) :=
    isMute_join (by decide) (List.forall_mem_map.2 fun type _ => type.isMute)
  have harrows : IsMute edge.direction.arrows.1 ∧ IsMute edge.direction.arrows.2 := by
    cases edge.direction <;> decide
  simp +decide [EdgePattern.text, isMute_node hsource, isMute_node htarget, hvariable, htypes,
    harrows.1, harrows.2]

/-- A relationship of the node that a search is about. -/
theorem isMute_edgeFromNode (types : List Identifier) (direction : Direction)
    {target : NodePattern} (htarget : IsMute target.variableName) : IsMute
      (EdgePattern.text { source := { variableName := "n" }, types, direction, target }) := by
  have hsource : IsMute "n" := by decide
  have hvariable : IsMute "" := by decide
  exact isMute_edge hsource hvariable htarget

/-- And one of the node `source`. -/
theorem isMute_edgeFromSource {variableName : String} (type : Identifier) (direction : Direction)
    {target : NodePattern} (hvariable : IsMute variableName)
    (htarget : IsMute target.variableName) :
    IsMute (edgeFromSource variableName type direction target).text := by
  have hsource : IsMute "source" := by decide
  exact isMute_edge hsource hvariable htarget

theorem isMute_linkClause {field : Field} {link : Link} {c : LinkClause}
    (h : linkClause field link = .ok c) :
    IsMute c.matching ∧ IsMute c.expression ∧ IsMute c.column := by
  obtain ⟨lowerName, hlower, h⟩ := bind_eq_ok.1 h
  obtain ⟨types, -, h⟩ := bind_eq_ok.1 h
  obtain ⟨target, htarget, h⟩ := bind_eq_ok.1 h
  obtain rfl := pure_eq_ok.1 h
  have hname : IsMute field.lowerName := isMute_of_isName (Identifier.isName_of_ofText hlower)
  have hvariable : IsMute target.variableName := by
    rw [NodePattern.variableName_of_withLabel htarget]
    simp +decide [lowerName.isMute]
  have hedge := isMute_edgeFromNode types link.direction hvariable
  refine ⟨by simp +decide [hedge], ?_⟩
  cases link.cardinality with
  | count => simp +decide [hvariable, Field.collectionAlias, hname]
  | collection => simp +decide [hvariable, Field.collectionAlias, hname]
  | single => simp +decide [hvariable, lowerName.isMute]

/-- **What returns entities is mute.** -/
theorem isMute_projection {s : Schema} {withLinks : Bool} {lines : List String}
    (h : projection s withLinks = .ok lines) : ∀ line ∈ lines, IsMute line := by
  unfold projection at h
  split at h
  · obtain ⟨clauses, hclauses, rfl⟩ := map_eq_ok.1 h
    have hclause : ∀ c ∈ clauses, IsMute c.matching ∧ IsMute c.expression ∧ IsMute c.column := by
      intro c hc
      obtain ⟨p, -, hp⟩ := exists_of_mem_mapM hclauses hc
      exact isMute_linkClause hp
    have hwith : IsMute (join ", " ("n" :: clauses.map gathered)) := by
      refine isMute_join (by decide) (List.forall_mem_cons.2 ⟨by decide, ?_⟩)
      refine List.forall_mem_map.2 fun c hc => ?_
      simp +decide [gathered, (hclause c hc).2.1, (hclause c hc).2.2]
    have hreturn : IsMute (join ", " ("n" :: clauses.map (·.column))) := by
      refine isMute_join (by decide) (List.forall_mem_cons.2 ⟨by decide, ?_⟩)
      exact List.forall_mem_map.2 fun c hc => (hclause c hc).2.2
    rw [linkedProjection_eq, List.forall_mem_append, List.forall_mem_append]
    refine ⟨⟨?_, ?_⟩, ?_⟩
    · exact List.forall_mem_map.2 fun c hc => (hclause c hc).1
    · exact List.forall_mem_singleton.2 (by simp +decide [gathering, hwith])
    · exact List.forall_mem_singleton.2 (by simp +decide [returning, hreturn])
  · obtain rfl := Except.ok.inj h
    decide

/-- **And so is what orders and limits them.** -/
theorem isMute_pageLines {r : SearchRequest} {ordered : List String}
    (h : orderLines r = .ok ordered) (skip limit : UInt64) :
    ∀ line ∈ pageLines ordered skip limit, IsMute line := by
  have horder : ∀ line ∈ ordered, IsMute line := by
    unfold orderLines at h
    split at h
    · cases h
      simp
    · obtain ⟨field, -, rfl⟩ := map_eq_ok.1 h
      refine List.forall_mem_singleton.2 ?_
      split <;> simp +decide [field.isMute]
  have hnumber {word : String} (hword : IsMute word) (number : UInt64) :
      ∀ line ∈ numberLine word number, IsMute line := by
    have hdigits : IsMute (toString number.toNat) := by
      intro hmem
      exact absurd (isDigit_of_mem_toString hmem) (by decide)
    unfold numberLine
    split
    · simp
    · have hspaced : IsMute (word ++ " ") := isMute_append.2 ⟨hword, by decide⟩
      exact List.forall_mem_singleton.2 (isMute_append.2 ⟨hspaced, hdigits⟩)
  rw [pageLines, List.forall_mem_append, List.forall_mem_append]
  exact ⟨horder, hnumber (by decide) skip, hnumber (by decide) limit⟩

/-! ### What selects entities -/

theorem separates_and : Separates " AND " :=
  ⟨by decide, ' ', ['A', 'N', 'D', ' '], rfl, by decide⟩

/-- A line of conditions mentions what they do. -/
theorem lineMentions_whereLines (conditions : List String) :
    lineMentions (whereLines conditions) = lineMentions conditions := by
  have hwhere : IsMute "WHERE " := by decide
  cases conditions with
  | nil => rfl
  | cons first more =>
    have hline : whereLines (first :: more) = ["WHERE " ++ join " AND " (first :: more)] := rfl
    rw [hline, lineMentions_cons, hwhere.mentions_append, mentions_join separates_and, lineMentions_nil,
      List.append_nil, lineMentions]

/-- The condition of free text mentions one parameter, once for each field that
it is looked for in. -/
theorem mentions_textCondition (fields : List Identifier) :
    mentions (textCondition fields).toList = fields.map fun _ => "text_search" := by
  have hor : Separates " OR " := ⟨by decide, ' ', ['O', 'R', ' '], rfl, by decide⟩
  have hfield (field : Identifier) : mentions
      ("toLower(toString(n." ++ field.text ++ ")) CONTAINS $text_search").toList =
        ["text_search"] := by
    have hmute : IsMute ("toLower(toString(n." ++ field.text) := by simp +decide [field.isMute]
    rw [hmute.mentions_append]
    decide
  have hopen : IsMute "(" := by decide
  have hclose : (")" : String).toList = [')'] := rfl
  have hend : mentions [')'] = [] := by decide
  rw [textCondition, String.append_assoc, hopen.mentions_append, String.toList_append, hclose,
    mentions_append_cons _ (by decide), hend, List.append_nil, mentions_join hor,
    List.flatMap_map, List.map_eq_flatMap]
  exact List.flatMap_congr fun field _ => hfield field

/-- The line by which a filter matches linked nodes mentions nothing. -/
theorem isMute_filterMatching {f : Filter} {c : FilterClause} (h : filterClause f = .ok c) :
    ∀ line ∈ c.matching, IsMute line := by
  obtain ⟨hparameter, hlinked | hstored⟩ := filterClause_eq_ok h
  · obtain ⟨texts, link, -, -, hclause⟩ := hlinked
    obtain ⟨targetField, target, types, -, htarget, -, rfl⟩ := linkedClause_eq_ok hclause
    have hvariable : IsMute target.variableName := by
      rw [NodePattern.variableName_of_withLabel htarget]
      exact isMute_append.2 ⟨by decide, isMute_of_isName hparameter⟩
    have hedge := isMute_edgeFromNode types link.direction hvariable
    rintro line ⟨⟩
    exact isMute_append.2 ⟨by decide, hedge⟩
  · obtain ⟨storedName, -, -, rfl⟩ := hstored
    cases f.value <;> simp [storedClause, storedClause.equal]

/-- What free text mentions is what it binds. -/
theorem mem_lineMentions_textClause {s : Schema} {r : SearchRequest}
    {text : Option (String × String)} (h : textClause s r = .ok text) (name : String) :
    name ∈ lineMentions (text.toList.map Prod.fst) ↔
      name ∈ text.toList.map fun _ => "text_search" := by
  obtain ⟨rfl, -⟩ | ⟨sought, fields, -, hfields, hnames, rfl⟩ := textClause_eq_ok h
  · rfl
  · have hne : fields ≠ [] := by
      rintro rfl
      simp [← hnames] at hfields
    simp [mentions_textCondition, hne]

/-- Each filter mentions the parameter that it binds. -/
theorem lineMentions_filterClauses {filters : List Filter} {clauses : List FilterClause}
    (h : filters.mapM filterClause = .ok clauses) :
    lineMentions (clauses.map (·.condition)) = clauses.map (·.parameter) := by
  have hclause : ∀ c ∈ clauses, mentions c.condition.toList = [c.parameter] := by
    intro c hc
    obtain ⟨f, -, hf⟩ := exists_of_mem_mapM h hc
    rw [(mentions_filterClause hf).1]
    exact (mentions_filterClause hf).2
  rw [lineMentions, List.flatMap_map, List.map_eq_flatMap]
  exact List.flatMap_congr hclause

/-- **What selects entities mentions the parameters that it binds:** each
condition its own, and nothing else any. -/
theorem mem_lineMentions_matching {s : Schema} {r : SearchRequest} {m : Matching}
    (h : matching s r = .ok m) (name : String) :
    name ∈ lineMentions m.lines ↔ name ∈ m.parameters.keys := by
  obtain ⟨text, clauses, label, htext, hclauses, -, hlines, hparameters⟩ := matching_eq_ok h
  have hfirst : IsMute ("MATCH " ++ (labelled label).text) :=
    isMute_append.2 ⟨by decide, isMute_labelled label⟩
  have hedges : lineMentions (clauses.filterMap (·.matching)) = [] := by
    refine lineMentions_eq_nil fun line hline => ?_
    obtain ⟨c, hc, hmatching⟩ := List.mem_filterMap.1 hline
    obtain ⟨f, -, hf⟩ := exists_of_mem_mapM hclauses hc
    exact isMute_filterMatching hf line hmatching
  have hguards : lineMentions (guards r) = [] := by
    unfold guards
    split <;> decide
  have hselected : lineMentions m.lines =
      lineMentions (text.toList.map Prod.fst) ++ clauses.map (·.parameter) := by
    rw [hlines, lineMentions_cons, lineMentions_append, hfirst.mentions_eq_nil, hedges,
      lineMentions_whereLines, lineMentions_append, lineMentions_append, hguards,
      lineMentions_filterClauses hclauses]
    rfl
  rw [hselected, hparameters, Bag.mem_keys_ofList, List.mem_append,
    mem_lineMentions_textClause htext, List.map_append, List.mem_append, List.map_map,
    List.map_map]
  rfl

end EntityGraph.Statement
