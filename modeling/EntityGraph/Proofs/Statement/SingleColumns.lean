import EntityGraph.Proofs.Cypher.Stopping
import EntityGraph.Proofs.Statement.SearchColumns
/-!
# Columns of single linked nodes

A relationship field of which one linked node is taken gives a column of its
own name, without the suffix that other fields have. The column is read back
for every name but five, the words of the language that end an expression, join
parts or return (`returnColumns_search_iff`).
-/

namespace EntityGraph.Statement

open Cypher
open Text (join unlines)

/-- **A search is one list of lexemes:** what comes before the line that
returns, that line, and what orders and limits. -/
theorem exists_lexemes_search {before tail : List String} {columns : List String}
    {xs : List Lexeme} (hcolumns : ∀ c ∈ columns, isName c = true)
    (htail : ∀ line ∈ tail, IsTailLine line.toList)
    (hwrite : write xs = before.flatMap fun line => line.toList ++ ['\n'])
    (hseparated : ∀ rest, Separated xs rest) : ∃ gap ys, IsBlankGap gap ∧ IsTail ys ∧
      (∀ y ∈ ys, IsClauseToken y.token) ∧
      lexemes (unlines (before ++ returning columns :: tail)) =
        some (xs ++ spacedWord "RETURN" :: spacedWord "DISTINCT" ::
          (listed gap ("n" :: columns) ++ ys)) := by
  obtain ⟨gap, ys, hgap, hend, hys, htokens, hysseparated, hall⟩ :=
    exists_afterReturning htail (returning columns)
  refine ⟨gap, ys, hgap, hys, htokens, ?_⟩
  have hnames : ∀ name ∈ "n" :: columns, isName name = true :=
    List.forall_mem_cons.2 ⟨by decide, hcolumns⟩
  have hlisted : Separated (listed gap ("n" :: columns)) (write ys ++ []) :=
    separated_listed hgap (fun h => by simp [hend h]) hnames
  have hline : Separated (spacedWord "RETURN" :: spacedWord "DISTINCT" ::
      (listed gap ("n" :: columns) ++ ys)) [] :=
    separated_spacedWord (by decide) (separated_spacedWord (by decide)
      (separated_append.2 ⟨hlisted, hysseparated⟩))
  have htext : unlines (before ++ returning columns :: tail) = String.ofList ([] ++ write (xs ++
      spacedWord "RETURN" :: spacedWord "DISTINCT" :: (listed gap ("n" :: columns) ++ ys))) := by
    rw [← String.toList_inj, String.toList_ofList, toList_unlines_append, hall, write_append, hwrite]
    simp [returning, spacedWord, write_listed, Token.chars, Name.chars]
  rw [htext]
  exact lexemes_write isBlankGap_nil (separated_append.2 ⟨hseparated _, hline⟩)

/-! ### The line that gathers -/

/-- The line that gathers, up to the column of one of its fields. -/
def gatheringBefore (before : List LinkClause) (clause : LinkClause) : String :=
  gathering before ++ ", " ++ clause.expression ++ " AS"

/-- What follows that column in the line. -/
def gatheringAfter (after : List LinkClause) : List Char :=
  after.flatMap fun c => (", " ++ gathered c).toList

theorem toList_join_cons (sep first : String) (more : List String) :
    (join sep (first :: more)).toList = first.toList ++ more.flatMap fun part =>
      (sep ++ part).toList := by
  induction more generalizing first with
  | nil => simp [join]
  | cons next more ih => simp [join, ih next]

theorem toList_gathering (before : List LinkClause) (clause : LinkClause)
    (after : List LinkClause) : (gathering (before ++ clause :: after)).toList =
      (gatheringBefore before clause).toList ++ ' ' :: (clause.column.toList ++
        gatheringAfter after) := by
  simp only [gathering, gatheringBefore, gatheringAfter, String.toList_append, toList_join_cons,
    List.map_append, List.map_cons, List.flatMap_append, List.flatMap_cons, gathered]
  simp [List.flatMap_map, gathered]

theorem gatheringAfter_cons (clause : LinkClause) (after : List LinkClause) :
    gatheringAfter (clause :: after) =
      ',' :: ' ' :: (join ", " ((clause :: after).map gathered)).toList := by
  rw [List.map_cons, toList_join_cons]
  simp [gatheringAfter, List.flatMap_map]

/-- What a relationship field may add to a search: lines of clause tokens, and a
name in small letters for a column. -/
structure LinkClause.IsSpelled (c : LinkClause) : Prop where
  matching : Cypher.IsSpelled IsClauseToken c.matching.toList
  expression : Cypher.IsSpelled IsClauseToken c.expression.toList
  column : isName c.column = true
  word : ∀ word, (Token.name (.plain c.column.toList)).isWord word = true ↔ c.column = word

theorem isSpelled_of_linkClauses {s : Schema} {clauses : List LinkClause}
    (h : linkClauses s = .ok clauses) : ∀ c ∈ clauses, LinkClause.IsSpelled c := by
  intro c hc
  obtain ⟨⟨field, link⟩, -, hlink⟩ := exists_of_mem_mapM h hc
  obtain ⟨hmatching, hexpression, hname, hcolumn⟩ := linkClause_spec hlink
  exact ⟨hmatching, hexpression, hcolumn ▸ isName_linkColumn hname,
    fun word => hcolumn ▸ isWord_linkColumn⟩

theorem spelled_name {P : Token → Prop} {name : String} (hname : isName name = true)
    (hp : P (.name (.plain name.toList))) : Cypher.IsSpelled P name.toList :=
  .token (t := .name (.plain name.toList)) hname hp

/-- **The line that gathers, around one column:** lexemes that are passed over
if the columns before it are, the column, and then nothing or a comma. -/
theorem exists_lexemes_gathering {before after : List LinkClause} {clause : LinkClause}
    (hbefore : ∀ c ∈ before, LinkClause.IsSpelled c ∧ IsPassedToken (.name (.plain c.column.toList)))
    (hclause : LinkClause.IsSpelled clause) (hafter : ∀ c ∈ after, LinkClause.IsSpelled c) :
    ∃ (xs : List Lexeme) (g : List Char) (zs : List Lexeme), (∀ x ∈ xs, IsPassedToken x.token) ∧
      (after = [] ∧ zs = [] ∨ ∃ more, zs = spacedComma :: more) ∧
      write (xs ++ named clause.column g :: zs) =
        (gathering (before ++ clause :: after)).toList ++ ['\n'] ∧
      ∀ rest, Separated (xs ++ named clause.column g :: zs) rest := by
  have hline : Cypher.IsSpelled IsPassedToken (gatheringBefore before clause).toList := by
    have hpassed (t : Token) (ht : IsClauseToken t) : IsPassedToken t := ht.passed
    have hgathering := spelled_gathering hpassed (fun c hc => (hbefore c hc).1.expression)
      fun c hc => spelled_name (hbefore c hc).1.column (hbefore c hc).2
    have hexpression := hgathering.comma (hclause.expression.mono hpassed) ⟨by simp, rfl⟩
    have hline := hexpression.space ((spelled_word "AS" (by decide)).mono hpassed)
    simpa [gatheringBefore] using hline
  obtain ⟨line, hline, hinit, hlast, hchars⟩ := hline
  have hxs : ∀ x ∈ line.lexemes [' '], IsPassedToken x.token :=
    Line.forall_lexemes.2 ⟨hinit, hlast⟩
  have hfirst (rest : List Char) : Separated (line.lexemes [' ']) rest :=
    hline.lexemes isBlankGap_space (by simp)
  -- The column ends the line, or a comma and the other columns follow it.
  cases after with
  | nil =>
    refine ⟨line.lexemes [' '], ['\n'], [], hxs, .inl ⟨rfl, rfl⟩, ?_, fun rest =>
      separated_append.2 ⟨hfirst _, hclause.column, isBlankGap_newline,
        Token.endsBefore_gap _ isBlankGap_newline (by simp [named]), trivial⟩⟩
    rw [toList_gathering, write_append, Line.write_lexemes, hchars]
    simp [named, gatheringAfter, Token.chars, Name.chars]
  | cons next after =>
    have hrest : Cypher.IsSpelled (fun _ => True)
        (join ", " ((next :: after).map gathered)).toList := by
      rw [List.map_cons]
      have hitem : ∀ c ∈ next :: after, Cypher.IsSpelled (fun _ => True) (gathered c).toList :=
        fun c hc => spelled_gathered (fun _ _ => trivial) (hafter c hc).expression
          (spelled_name (hafter c hc).column trivial)
      have hitems : ∀ part ∈ (next :: after).map gathered,
          Cypher.IsSpelled (fun _ => True) part.toList := List.forall_mem_map.2 hitem
      exact spelled_commas trivial hitems
    obtain ⟨more, hmore, -, -, hmorechars⟩ := hrest
    refine ⟨line.lexemes [' '], [], spacedComma :: more.lexemes ['\n'], hxs, .inr ⟨_, rfl⟩, ?_,
      fun rest => separated_append.2 ⟨hfirst _, hclause.column, isBlankGap_nil, ?_, trivial,
        isBlankGap_space, trivial, hmore.lexemes isBlankGap_newline (by simp)⟩⟩
    · rw [toList_gathering, gatheringAfter_cons, write_append, Line.write_lexemes, hchars, write_cons,
        write_cons, Line.write_lexemes, hmorechars]
      simp [named, spacedComma, Token.chars, Name.chars]
    · exact Token.endsBefore_of_startsFenced _ (startsFenced_cons.2 (by decide))

/-! ### Searches -/

theorem LinkClause.IsSpelled.passed {c : LinkClause} (h : c.IsSpelled) (hne : c.column ≠ "return") :
    IsPassedToken (.name (.plain c.column.toList)) := by
  refine ⟨by simp, ?_⟩
  rw [Bool.eq_false_iff, ne_eq, h.word]
  exact hne

section Searches

variable {m : Matching} {clauses : List LinkClause} {r : SearchRequest} {ordered : List String}
  {skip limit : UInt64}
variable (hlines : ∀ line ∈ m.lines, Cypher.IsSpelled IsClauseToken line.toList)
  (hclauses : ∀ c ∈ clauses, LinkClause.IsSpelled c) (hordered : orderLines r = .ok ordered)

include hlines hclauses hordered

/-- The lines of a search with relationship fields, as lexemes: those that
select and match, and those of the line that gathers. -/
theorem lexemes_gathering_search (ws : List Lexeme)
    (hwrite : write ws = (gathering clauses).toList ++ ['\n'])
    (hseparated : ∀ rest, Separated ws rest) : ∃ vs gap ys, (∀ x ∈ vs, IsPassedToken x.token) ∧
      IsBlankGap gap ∧ IsTail ys ∧ (∀ y ∈ ys, IsPassedToken y.token) ∧
      lexemes (unlines (m.lines ++ (linkedProjection clauses ++ pageLines ordered skip limit))) =
        some (vs ++ ws ++ spacedWord "RETURN" :: spacedWord "DISTINCT" ::
          (listed gap ("n" :: clauses.map (·.column)) ++ ys)) := by
  have hbefore : ∀ line ∈ m.lines ++ clauses.map (·.matching),
      Cypher.IsSpelled IsClauseToken line.toList :=
    List.forall_mem_append.2 ⟨hlines, List.forall_mem_map.2 fun c hc => (hclauses c hc).matching⟩
  obtain ⟨vs, hvs, hvswrite, hvsseparated⟩ := exists_clauses hbefore
  have hall : write (vs ++ ws) = (m.lines ++ clauses.map (·.matching) ++
      [gathering clauses]).flatMap fun line => line.toList ++ ['\n'] := by
    rw [write_append, hvswrite, hwrite]
    simp
  obtain ⟨gap, ys, hgap, hys, htokens, hlexemes⟩ :=
    exists_lexemes_search (List.forall_mem_map.2 fun c hc => (hclauses c hc).column)
      (isTailLine_pageLines hordered skip limit) hall
      fun rest => separated_append.2 ⟨hvsseparated _, hseparated rest⟩
  refine ⟨vs, gap, ys, fun x hx => (hvs x hx).passed, hgap, hys, fun y hy => (htokens y hy).passed, ?_⟩
  rw [linkedProjection_eq, ← hlexemes]
  simp

/-- If no column is the word that returns, the first one that ends expressions
cuts the columns off. -/
theorem returnColumns_of_ending (hreturn : ∀ c ∈ clauses, c.column ≠ "return")
    {good rest : List String} {bad : String}
    (hsplit : clauses.map (·.column) = good ++ bad :: rest)
    (hgood : ∀ name ∈ good, IsColumnName name) (hbad : IsEndingName bad) :
    returnColumns (unlines (m.lines ++ (linkedProjection clauses ++
      pageLines ordered skip limit))) = .ok ("n" :: good) := by
  have hgathering : Cypher.IsSpelled IsPassedToken (gathering clauses).toList :=
    spelled_gathering (fun _ ht => IsClauseToken.passed ht) (fun c hc => (hclauses c hc).expression)
      fun c hc => spelled_name (hclauses c hc).column ((hclauses c hc).passed (hreturn c hc))
  obtain ⟨line, hline, hinit, hlast, hchars⟩ := hgathering
  have hwrite : write (line.lexemes ['\n']) = (gathering clauses).toList ++ ['\n'] := by
    rw [Line.write_lexemes, hchars]
  obtain ⟨vs, gap, ys, hvs, -, -, hys, hlexemes⟩ := lexemes_gathering_search hlines hclauses hordered
    (line.lexemes ['\n']) hwrite fun rest => hline.lexemes isBlankGap_newline (by simp)
  have hpassed : ∀ name ∈ clauses.map (·.column), IsPassedToken (.name (.plain name.toList)) :=
    List.forall_mem_map.2 fun c hc => (hclauses c hc).passed (hreturn c hc)
  rw [hsplit] at hlexemes hpassed
  exact returnColumns_cut hlexemes
    (List.forall_mem_append.2 ⟨hvs, Line.forall_lexemes.2 ⟨hinit, hlast⟩⟩) (by decide) (by decide)
    hgood hbad (fun name hname => hpassed name (List.mem_append_right good hname)) hys

/-- If one is, the alias in the line that gathers is taken for a place that
returns. -/
theorem returnColumns_ne_of_return (hreturn : "return" ∈ clauses.map (·.column)) :
    returnColumns (unlines (m.lines ++ (linkedProjection clauses ++
      pageLines ordered skip limit))) ≠ .ok ("n" :: clauses.map (·.column)) := by
  -- The first column that is the word: nothing before it in the text returns.
  obtain ⟨names, names', hnames, hfirst⟩ := List.eq_append_cons_of_mem hreturn
  obtain ⟨before, rest, rfl, rfl, hrest⟩ := List.map_eq_append_iff.1 hnames
  obtain ⟨clause, after, rfl, hcolumn, rfl⟩ := List.map_eq_cons_iff.1 hrest
  have hbefore : ∀ c ∈ before, c.IsSpelled ∧ IsPassedToken (.name (.plain c.column.toList)) := by
    intro c hc
    have hspelled := hclauses c (List.mem_append_left _ hc)
    refine ⟨hspelled, hspelled.passed ?_⟩
    rintro heq
    exact hfirst (heq ▸ List.mem_map_of_mem hc)
  have hclause := hclauses clause (List.mem_append_right _ (by simp))
  have hafter : ∀ c ∈ after, c.IsSpelled := fun c hc =>
    hclauses c (List.mem_append_right _ (List.mem_cons_of_mem clause hc))
  obtain ⟨xs, g, zs, hxs, hzs, hwrite, hseparated⟩ :=
    exists_lexemes_gathering hbefore hclause hafter
  obtain ⟨vs, gap, ys, hvs, hgap, htail, -, hlexemes⟩ :=
    lexemes_gathering_search hlines hclauses hordered _ hwrite hseparated
  have hword : (named clause.column g).token.isWord "return" = true := (hclause.word _).2 hcolumn
  have hpassed : ∀ x ∈ vs ++ xs, IsPassedToken x.token := List.forall_mem_append.2 ⟨hvs, hxs⟩
  -- As the last column it swallows the line that returns; before a comma it
  -- makes the statement malformed.
  rcases hzs with ⟨rfl, rfl⟩ | ⟨more, rfl⟩
  · have htext : lexemes (unlines (m.lines ++ (linkedProjection (before ++ [clause]) ++
        pageLines ordered skip limit))) = some ((vs ++ xs) ++ named clause.column g ::
          spacedWord "RETURN" :: spacedWord "DISTINCT" ::
          (listed gap ("n" :: (before.map (·.column) ++ [clause.column])) ++ ys)) := by
      rw [hlexemes]
      simp
    have hgood : ∀ name ∈ before.map (·.column), isName name = true ∧
        IsPassedToken (.name (.plain name.toList)) :=
      List.forall_mem_map.2 fun c hc => ⟨(hbefore c hc).1.column, (hbefore c hc).2⟩
    have hread := returnColumns_returning_last htext hpassed hword (by decide) hgood
      ⟨hclause.column, (hclause.word _).2 hcolumn⟩ hgap htail
    rcases hread with hread | ⟨columns, hread⟩ <;> rw [hread] <;> simp
  · have htext : lexemes (unlines (m.lines ++ (linkedProjection (before ++ clause :: after) ++
        pageLines ordered skip limit))) = some ((vs ++ xs) ++ named clause.column g ::
          spacedComma :: (more ++ spacedWord "RETURN" :: spacedWord "DISTINCT" ::
          (listed gap ("n" :: (before ++ clause :: after).map (·.column)) ++ ys))) := by
      rw [hlexemes]
      simp
    rw [returnColumns_returning_comma htext hpassed hword rfl]
    simp

end Searches

theorem mem_stopWords {word : String} :
    word ∈ stopWords ↔ word ∈ endingWords ∨ word = "return" := by
  simp [stopWords, endingWords, or_assoc]

/-- With a column that is the word that returns, the columns are not those of
the fields. -/
theorem returnColumns_search_ne_of_return {s : Schema} {r : SearchRequest} {st : Statement}
    (h : search s r = .ok st)
    (hreturn : "return" ∈ (linkedFields s).map fun p => linkColumn p.1 p.2) :
    returnColumns st.text ≠ .ok ("n" :: (linkedFields s).map fun p => linkColumn p.1 p.2) := by
  obtain ⟨m, projected, ordered, hm, hprojected, hordered, rfl⟩ := results_eq_ok h
  rcases projection_cases hprojected with ⟨hnone, -⟩ | ⟨clauses, hclauses, rfl⟩
  · simp [hnone] at hreturn
  · rw [← columns_linkClauses hclauses] at hreturn ⊢
    exact returnColumns_ne_of_return (spelled_matchingLines hm) (isSpelled_of_linkClauses hclauses)
      hordered hreturn

/-- **A column that ends expressions is lost,** and so are all after it. -/
theorem returnColumns_search_cut {s : Schema} {r : SearchRequest} {st : Statement}
    (h : search s r = .ok st) {good rest : List String} {bad : String}
    (hsplit : (linkedFields s).map (fun p => linkColumn p.1 p.2) = good ++ bad :: rest)
    (hgood : ∀ name ∈ good, name ∉ stopWords) (hbad : bad ∈ endingWords)
    (hrest : "return" ∉ rest) : returnColumns st.text = .ok ("n" :: good) := by
  obtain ⟨m, projected, ordered, hm, hprojected, hordered, rfl⟩ := results_eq_ok h
  rcases projection_cases hprojected with ⟨hnone, -⟩ | ⟨clauses, hclauses, rfl⟩
  · simp [hnone] at hsplit
  · have hspelled := isSpelled_of_linkClauses hclauses
    rw [← columns_linkClauses hclauses] at hsplit
    have hmem : ∀ name ∈ good ++ bad :: rest, ∃ c ∈ clauses, c.column = name := fun name hname =>
      List.mem_map.1 (hsplit ▸ hname)
    -- The word that returns is neither among the good columns, nor the bad one,
    -- nor after it.
    have hreturn : ∀ c ∈ clauses, c.column ≠ "return" := by
      intro c hc heq
      have hin : "return" ∈ good ++ bad :: rest := hsplit ▸ heq ▸ List.mem_map_of_mem hc
      rcases List.mem_append.1 hin with hin | hin
      · exact hgood _ hin (mem_stopWords.2 (.inr rfl))
      · rcases List.mem_cons.1 hin with rfl | hin
        · exact absurd hbad (by decide)
        · exact hrest hin
    have hcolumns : ∀ name ∈ good, IsColumnName name := by
      intro name hname
      obtain ⟨c, hc, rfl⟩ := hmem name (List.mem_append_left _ hname)
      refine isColumnName_of_not_ending (hspelled c hc).column ?_
      rintro ⟨word, hword, hisWord⟩
      obtain rfl := ((hspelled c hc).word word).1 hisWord
      exact hgood _ hname (mem_stopWords.2 (.inl hword))
    have hending : IsEndingName bad := by
      obtain ⟨c, hc, hcolumn⟩ := hmem bad (List.mem_append_right _ (by simp))
      exact ⟨bad, hbad, hcolumn ▸ ((hspelled c hc).word _).2 rfl⟩
    exact returnColumns_of_ending (spelled_matchingLines hm) hspelled hordered hreturn hsplit
      hcolumns hending

/-- The first of some names that is one of some words, if there is one. -/
theorem exists_first_mem {names words : List String} {name : String} (hname : name ∈ names)
    (hword : name ∈ words) : ∃ good bad rest, names = good ++ bad :: rest ∧
      (∀ n ∈ good, n ∉ words) ∧ bad ∈ words := by
  induction names with
  | nil => simp at hname
  | cons n names ih =>
    by_cases hn : n ∈ words
    · exact ⟨[], n, names, rfl, by simp, hn⟩
    · have hmem : name ∈ names := by
        rcases List.mem_cons.1 hname with rfl | hmem
        · exact absurd hword hn
        · exact hmem
      obtain ⟨good, bad, rest, rfl, hgood, hbad⟩ := ih hmem
      exact ⟨n :: good, bad, rest, rfl, List.forall_mem_cons.2 ⟨hn, hgood⟩, hbad⟩

/-- **The columns of a search are read back** exactly when no single linked node
has a column that is one of five words of the language. -/
theorem returnColumns_search_iff {s : Schema} {r : SearchRequest} {st : Statement}
    (h : search s r = .ok st) :
    returnColumns st.text = .ok ("n" :: (linkedFields s).map fun p => linkColumn p.1 p.2) ↔
      ∀ p ∈ linkedFields s, p.2.cardinality = .single → p.1.lowerName ∉ stopWords := by
  constructor
  · intro hread p hp hsingle hmem
    have hcolumn : p.1.lowerName ∈ (linkedFields s).map fun p => linkColumn p.1 p.2 :=
      List.mem_map.2 ⟨p, hp, by rw [linkColumn, if_pos hsingle]⟩
    by_cases hreturn : "return" ∈ (linkedFields s).map fun p => linkColumn p.1 p.2
    · exact returnColumns_search_ne_of_return h hreturn hread
    -- Otherwise the first of the words cuts the list, and the lengths differ.
    · obtain ⟨good, bad, rest, hsplit, hgood, hbad⟩ := exists_first_mem hcolumn hmem
      have hne : bad ≠ "return" := by
        rintro rfl
        exact hreturn (hsplit ▸ List.mem_append_right good (by simp))
      have hrest : "return" ∉ rest := fun hin =>
        hreturn (hsplit ▸ List.mem_append_right good (List.mem_cons_of_mem bad hin))
      have hending : bad ∈ endingWords := (mem_stopWords.1 hbad).resolve_right hne
      rw [returnColumns_search_cut h hsplit hgood hending hrest, hsplit] at hread
      have hlength := congrArg List.length (Except.ok.inj hread)
      simp at hlength
  · intro hsingle
    refine returnColumns_search_of_not_stop h fun p hp => ?_
    by_cases hcardinality : p.2.cardinality = .single
    · rw [linkColumn, if_pos hcardinality]
      exact hsingle p hp hcardinality
    · rw [linkColumn, if_neg hcardinality]
      exact collectionAlias_not_mem_stopWords p.1

/-- A schema with one relationship field, of which one linked node is taken. -/
def singleSchema (name : String) : Schema :=
  .ofFields "Movie" [.scalar "title" .string,
    (Field.relationship name ["RELATED"]).withCardinality .single]

theorem returnColumns_search_studio : ∃ st, search (singleSchema "Studio") {} = .ok st ∧
    returnColumns st.text = .ok ["n", "studio"] := by
  have hok : (search (singleSchema "Studio") {}).toOption.isSome = true := by decide
  have hplain : ∀ p ∈ linkedFields (singleSchema "Studio"), p.2.cardinality = .single →
      p.1.lowerName ∉ stopWords := by decide
  obtain ⟨st, hst⟩ := exists_ok_of_isSome hok
  exact ⟨st, hst, (returnColumns_search_iff hst).2 hplain⟩

/-- A field whose name limits rows gives no column. -/
theorem returnColumns_search_limit : ∃ st, search (singleSchema "limit") {} = .ok st ∧
    returnColumns st.text = .ok ["n"] ∧ returnColumns st.text ≠ .ok ["n", "limit"] := by
  have hok : (search (singleSchema "limit") {}).toOption.isSome = true := by decide
  have hsplit : (linkedFields (singleSchema "limit")).map (fun p => linkColumn p.1 p.2) =
      [] ++ "limit" :: [] := by decide
  obtain ⟨st, hst⟩ := exists_ok_of_isSome hok
  have hread : returnColumns st.text = .ok ["n"] :=
    returnColumns_search_cut hst hsplit (by simp) (by decide) (by simp)
  exact ⟨st, hst, hread, by simp [hread]⟩

end EntityGraph.Statement
