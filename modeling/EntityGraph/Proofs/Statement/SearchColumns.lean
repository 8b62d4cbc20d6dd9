import EntityGraph.Proofs.Statement.ReturnLines
import EntityGraph.Proofs.Statement.Selection
import EntityGraph.Proofs.Text.Case
/-!
# The columns of search statements

A page of a search has the columns of its projection, whatever selects, orders
and limits the entities (`returnColumns_results`). The projection gathers what
is linked by each relationship field under a column, and every such column is
read back unless it spells one of five words of the language
(`returnColumns_search_of_not_stop`).
-/

namespace EntityGraph.Statement

open Cypher
open Text (join unlines)

/-! ### Pages -/

/-- Texts with commas between them are a line. -/
theorem spelled_commas {P : Token → Prop} (hcomma : P .comma) {first : String}
    {more : List String} (h : ∀ part ∈ first :: more, IsSpelled P part.toList) :
    IsSpelled P (join ", " (first :: more)).toList := by
  induction more generalizing first with
  | nil => exact h first (by simp)
  | cons next more ih =>
    have htail := ih fun part hpart => h part (List.mem_cons_of_mem first hpart)
    have hjoined := (h first (by simp)).comma htail hcomma
    simpa [join] using hjoined

/-- What gathers the linked nodes of a field, under its column. -/
def gathered (c : LinkClause) : String :=
  c.expression ++ " AS " ++ c.column

/-- The line that gathers linked nodes. -/
def gathering (clauses : List LinkClause) : String :=
  "WITH " ++ join ", " ("n" :: clauses.map gathered)

section Gathering

variable {P : Token → Prop} (hP : ∀ t, IsClauseToken t → P t)

include hP

theorem spelled_gathered {c : LinkClause} (hexpression : IsSpelled IsClauseToken c.expression.toList)
    (hcolumn : IsSpelled P c.column.toList) : IsSpelled P (gathered c).toList := by
  have has := (hexpression.mono hP).space ((spelled_word "AS" (by decide)).mono hP)
  have hline := has.space hcolumn
  simpa [gathered] using hline

/-- It is a line of the tokens that its columns are spelled by. -/
theorem spelled_gathering {clauses : List LinkClause}
    (hexpression : ∀ c ∈ clauses, IsSpelled IsClauseToken c.expression.toList)
    (hcolumn : ∀ c ∈ clauses, IsSpelled P c.column.toList) :
    IsSpelled P (gathering clauses).toList := by
  have hn : IsSpelled P "n".toList := (spelled_word "n" (by decide)).mono hP
  have hitems := spelled_commas (hP .comma ⟨by simp, rfl, rfl⟩) (List.forall_mem_cons.2
    ⟨hn, List.forall_mem_map.2 fun c hc => spelled_gathered hP (hexpression c hc) (hcolumn c hc)⟩)
  have hline := ((spelled_word "WITH" (by decide)).mono hP).space hitems
  simpa [gathering] using hline

end Gathering

theorem isTailLine_orderLines {r : SearchRequest} {lines : List String}
    (h : orderLines r = .ok lines) : ∀ line ∈ lines, IsTailLine line.toList := by
  unfold orderLines at h
  split at h
  · cases h
    simp
  · obtain ⟨field, -, rfl⟩ := map_eq_ok.1 h
    refine List.forall_mem_singleton.2 ?_
    have horder {way : String} (hway : IsClauseWord way) :
        IsTailLine ("ORDER BY " ++ "n" ++ "." ++ field.text ++ " " ++ way).toList :=
      isTailLine_order (by decide) field.isName hway
    split
    · simpa using horder (by decide : IsClauseWord "DESC")
    · simpa using horder (by decide : IsClauseWord "ASC")

/-- The lines of a page after its projection. -/
def pageLines (ordered : List String) (skip limit : UInt64) : List String :=
  ordered ++ (numberLine "SKIP" skip ++ numberLine "LIMIT" limit)

theorem isTailLine_pageLines {r : SearchRequest} {ordered : List String}
    (h : orderLines r = .ok ordered) (skip limit : UInt64) :
    ∀ line ∈ pageLines ordered skip limit, IsTailLine line.toList := by
  intro line hline
  rcases List.mem_append.1 hline with hline | hline
  · exact isTailLine_orderLines h line hline
  · rcases List.mem_append.1 hline with hline | hline
    · exact isTailLine_numberLine (.inl rfl) skip line hline
    · exact isTailLine_numberLine (.inr rfl) limit line hline

/-- **The parts of a page statement:** what selects the entities, what returns
them, and what orders and limits them. -/
theorem results_eq_ok {s : Schema} {r : SearchRequest} {skip limit : UInt64} {withLinks : Bool}
    {st : Statement} (h : results s r skip limit withLinks = .ok st) :
    ∃ m projected ordered, matching s r = .ok m ∧ projection s withLinks = .ok projected ∧
      orderLines r = .ok ordered ∧
      st = ⟨unlines (m.lines ++ (projected ++ pageLines ordered skip limit)), m.parameters⟩ := by
  obtain ⟨m, hm, h⟩ := bind_eq_ok.1 h
  obtain ⟨projected, hprojected, h⟩ := bind_eq_ok.1 h
  obtain ⟨ordered, hordered, h⟩ := bind_eq_ok.1 h
  obtain rfl := pure_eq_ok.1 h
  exact ⟨m, projected, ordered, hm, hprojected, hordered, by simp [pageLines]⟩

/-- A page statement has the columns of its projection. -/
theorem returnColumns_results {s : Schema} {r : SearchRequest} {skip limit : UInt64}
    {withLinks : Bool} {st : Statement} {clauses : List String} {returning : String}
    {columns : List String} (h : results s r skip limit withLinks = .ok st)
    (hprojection : projection s withLinks = .ok (clauses ++ [returning]))
    (hclauses : ∀ c ∈ clauses, IsSpelled IsClauseToken c.toList)
    (hreturning : Returns returning.toList columns) : returnColumns st.text = .ok columns := by
  obtain ⟨m, projected, ordered, hm, hprojected, hordered, rfl⟩ := results_eq_ok h
  obtain rfl : clauses ++ [returning] = projected := Except.ok.inj (hprojection.symm.trans hprojected)
  refine columns_of_lines (List.forall_mem_append.2 ⟨spelled_matchingLines hm, hclauses⟩)
    hreturning (isTailLine_pageLines hordered skip limit) ?_
  simp

theorem returns_onlyNode : Returns "RETURN DISTINCT n".toList ["n"] := by
  have hnames : Returns _ ["n"] := returns_names true (by decide) (by decide) (by simp)
  simpa [join] using hnames

theorem returnColumns_textSearch {s : Schema} {term : String} {skip limit : Option UInt64}
    {st : Statement} (h : textSearch s term skip limit = .ok st) :
    returnColumns st.text = .ok ["n"] := by
  have hprojection : projection s false = .ok ([] ++ ["RETURN DISTINCT n"]) := rfl
  exact returnColumns_results h hprojection (List.forall_mem_nil _) returns_onlyNode

theorem returnColumns_count {s : Schema} {r : SearchRequest} {st : Statement}
    (h : count s r = .ok st) : returnColumns st.text = .ok ["total_count"] := by
  obtain ⟨m, hm, h⟩ := bind_eq_ok.1 h
  obtain rfl := pure_eq_ok.1 h
  have hreturn : Returns "RETURN count(DISTINCT n) AS total_count".toList ["total_count"] := by
    have hargument : IsGroupBody "DISTINCT n".toList := isGroupBody_of_all (by decide)
    have hcount := returns_count hargument (by decide : isName "total_count" = true)
    simpa using hcount
  exact columns_of_lines (spelled_matchingLines hm) hreturn (List.forall_mem_nil _) rfl

/-! ### Columns of linked nodes -/

/-- The words that end an expression, join parts, or return. -/
def stopWords : List String :=
  ["as", "skip", "limit", "union", "return"]

/-- The column of a relationship field is in small letters. -/
theorem toLower_linkColumn (field : Field) (link : Link) :
    (linkColumn field link).toList.map Char.toLower = (linkColumn field link).toList := by
  have hlower : field.lowerName.toList.map Char.toLower = field.lowerName.toList :=
    Text.toLower_lower field.name
  unfold linkColumn
  split
  · exact hlower
  · rw [Field.collectionAlias, String.toList_append, List.map_append, hlower]
    exact congrArg _ (by decide)

/-- So it is a word of the language only if it spells it letter by letter. -/
theorem isWord_linkColumn {field : Field} {link : Link} {word : String} :
    (Token.name (.plain (linkColumn field link).toList)).isWord word = true ↔
      linkColumn field link = word := by
  rw [Token.isWord, toLower_linkColumn, beq_iff_eq, String.toList_inj]

theorem isName_append {s t : String} (hs : isName s = true)
    (ht : t.toList.all isNameChar = true) : isName (s ++ t) = true := by
  unfold isName at hs ⊢
  rw [String.toList_append]
  cases hcs : s.toList with
  | nil => simp [hcs, isNameChars] at hs
  | cons c cs =>
    simp only [hcs, isNameChars, Bool.and_eq_true, List.all_eq_true] at hs
    rw [List.cons_append, isNameChars, hs.1, Bool.true_and, List.all_append, Bool.and_eq_true]
    exact ⟨List.all_eq_true.2 hs.2, ht⟩

theorem isName_linkColumn {field : Field} {link : Link} (h : isName field.lowerName = true) :
    isName (linkColumn field link) = true := by
  unfold linkColumn
  split
  · exact h
  · exact isName_append h (by decide)

theorem length_collectionAlias (field : Field) :
    field.collectionAlias.length = field.lowerName.length + 11 := by
  rw [Field.collectionAlias, String.length_append]
  exact congrArg _ (by decide)

/-- A column with the suffix for collections is none of the words. -/
theorem collectionAlias_not_mem_stopWords (field : Field) :
    field.collectionAlias ∉ stopWords := by
  intro hmem
  have hlength : 11 ≤ field.collectionAlias.length := by
    rw [length_collectionAlias]
    omega
  simp only [stopWords, List.mem_cons, List.not_mem_nil, or_false] at hmem
  rcases hmem with h | h | h | h | h <;> rw [h] at hlength <;> revert hlength <;> decide

/-- A column that is none of the words may stand among what is returned. -/
theorem isColumnName_linkColumn {field : Field} {link : Link} (h : isName field.lowerName = true)
    (hstop : linkColumn field link ∉ stopWords) :
    IsColumnName (linkColumn field link) ∧ IsClauseWord (linkColumn field link) := by
  have hword : ∀ word ∈ stopWords,
      (Token.name (.plain (linkColumn field link).toList)).isWord word = false := by
    intro word hmem
    rw [Bool.eq_false_iff, ne_eq, isWord_linkColumn]
    rintro rfl
    exact hstop hmem
  have hname : isName (linkColumn field link) = true := isName_linkColumn h
  exact ⟨⟨hname, by simp, by simp, hword _ (by simp [stopWords]), hword _ (by simp [stopWords]),
    hword _ (by simp [stopWords]), hword _ (by simp [stopWords])⟩,
    hname, hword _ (by simp [stopWords]), hword _ (by simp [stopWords])⟩

/-- The line that returns the entities with what is linked to them. -/
def returning (columns : List String) : String :=
  "RETURN DISTINCT " ++ join ", " ("n" :: columns)

theorem linkedProjection_eq (clauses : List LinkClause) : linkedProjection clauses =
    (clauses.map (·.matching) ++ [gathering clauses]) ++ [returning (clauses.map (·.column))] := by
  have hgathered : (fun c : LinkClause => c.expression ++ " AS " ++ c.column) = gathered := rfl
  simp [linkedProjection, gathering, hgathered, returning]

/-- A search without relationship fields returns the entities alone. -/
theorem projection_cases {s : Schema} {projected : List String}
    (h : projection s true = .ok projected) :
    (linkedFields s = [] ∧ projected = ["RETURN DISTINCT n"]) ∨
      ∃ clauses, linkClauses s = .ok clauses ∧ projected = linkedProjection clauses := by
  unfold projection at h
  split at h
  · obtain ⟨clauses, hclauses, rfl⟩ := map_eq_ok.1 h
    exact .inr ⟨clauses, hclauses, rfl⟩
  · next hnone =>
    obtain rfl := Except.ok.inj h
    have hempty : s.relationships = [] := by simpa [Schema.hasRelationships] using hnone
    exact .inl ⟨by simp [linkedFields, hempty], rfl⟩

theorem returns_linked {columns : List String} (h : ∀ c ∈ columns, IsColumnName c) :
    Returns (returning columns).toList ("n" :: columns) :=
  returns_names true (by decide) (by decide) h

/-- **A search gives a column for every relationship field,** unless one of the
columns spells a word of the language. -/
theorem returnColumns_search_of_not_stop {s : Schema} {r : SearchRequest} {st : Statement}
    (h : search s r = .ok st) (hstop : ∀ p ∈ linkedFields s, linkColumn p.1 p.2 ∉ stopWords) :
    returnColumns st.text = .ok ("n" :: (linkedFields s).map fun p => linkColumn p.1 p.2) := by
  obtain ⟨m, projected, ordered, hm, hprojected, -, -⟩ := results_eq_ok h
  rcases projection_cases hprojected with ⟨hnone, rfl⟩ | ⟨clauses, hclauses, rfl⟩
  · rw [hnone]
    exact returnColumns_results h hprojected (List.forall_mem_nil _) returns_onlyNode
  -- No column is a stop word, so each may stand in the line that gathers and in
  -- the line that returns.
  · have hcolumn : ∀ c ∈ (linkedFields s).map fun p => linkColumn p.1 p.2,
        IsColumnName c ∧ IsClauseWord c := by
      refine List.forall_mem_map.2 fun p hp => ?_
      exact isColumnName_linkColumn (isName_lowerName_of_linkClauses hclauses p hp) (hstop p hp)
    rw [← columns_linkClauses hclauses] at hcolumn ⊢
    have hgathering : IsSpelled IsClauseToken (gathering clauses).toList :=
      spelled_gathering (fun _ ht => ht) (fun c hc => (linkClauses_spec hclauses c hc).2)
        fun c hc => spelled_word _ (hcolumn _ (List.mem_map_of_mem hc)).2
    have hmatching : ∀ line ∈ clauses.map (·.matching), IsSpelled IsClauseToken line.toList :=
      List.forall_mem_map.2 fun c hc => (linkClauses_spec hclauses c hc).1
    rw [linkedProjection_eq] at hprojected
    exact returnColumns_results h hprojected
      (List.forall_mem_append.2 ⟨hmatching, List.forall_mem_singleton.2 hgathering⟩)
      (returns_linked fun c hc => (hcolumn c hc).1)

/-- The columns of relationship fields that are all gathered. -/
theorem columns_of_gathering {s : Schema} (h : ∀ field ∈ s.relationships, ∃ link,
    field.link = some link ∧ link.cardinality ≠ .single) :
    (linkedFields s).map (fun p => linkColumn p.1 p.2) =
      s.relationships.map (·.collectionAlias) := by
  unfold linkedFields
  generalize s.relationships = fields at h ⊢
  induction fields with
  | nil => rfl
  | cons field fields ih =>
    obtain ⟨link, hlink, hcardinality⟩ := h field (by simp)
    have htail := ih fun f hf => h f (List.mem_cons_of_mem field hf)
    rw [List.filterMap_cons_some (by rw [hlink]; rfl), List.map_cons, List.map_cons, htail,
      linkColumn, if_neg hcardinality]

end EntityGraph.Statement
