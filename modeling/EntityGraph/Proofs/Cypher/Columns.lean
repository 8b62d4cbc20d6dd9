import EntityGraph.Proofs.Cypher.Projections
/-!
# Columns of a written query

A query whose lexemes are separated has the columns that its last part names
(`returnColumns_query`): each alias with the accents taken off, each other
expression as it is written. Statements of clauses alone return nothing
(`returnColumns_clauses`). `returnColumns_write` puts the two together for
queries written with white space between all tokens.
-/

namespace EntityGraph.Cypher

open Text

/-! ### Parts and queries -/

theorem projections_nil : projections [] = some [] := by
  rw [projections]

/-- What is neither the word that returns nor a semicolon is passed over. -/
theorem projections_skip {xs rest : List Lexeme}
    (h : ∀ x ∈ xs, x.token ≠ .semicolon ∧ x.token.isWord "return" = false) :
    projections (xs ++ rest) = projections rest := by
  induction xs with
  | nil => rfl
  | cons x xs ih =>
    obtain ⟨hsemicolon, hreturn⟩ := h x (by simp)
    rw [List.cons_append, projections]
    simp [hsemicolon, hreturn, ih fun y hy => h y (by simp [hy])]

/-- The word that returns starts a projection. -/
theorem projections_return {x : Lexeme} {rest : List Lexeme} (h : x.token.isWord "return" = true) :
    projections (x :: rest) = (scanProjection rest).bind fun (projection, after) =>
      (projections after).map (projection :: ·) := by
  have hsemicolon : x.token ≠ .semicolon := by
    intro heq
    simp [heq] at h
  rw [projections]
  simp only [hsemicolon, ↓reduceIte, h]
  split <;> simp_all

theorem projections_semicolon {semicolon : Option Lexeme}
    (h : ∀ x ∈ semicolon, x.token = .semicolon) : projections semicolon.toList = some [] := by
  cases semicolon with
  | none => exact projections_nil
  | some x =>
    rw [Option.toList_some, projections]
    simp [h x rfl]

/-- **A part gives its items,** and reading goes on after it. -/
theorem projections_part {part : PartPhrase} {after : List Lexeme} (h : part.IsWellFormed)
    (hafter : EndsPart after) : projections (part.lexemes ++ after) =
      (projections after).map (.items part.returning.items :: ·) := by
  obtain ⟨hclauses, hreturning⟩ := h
  have hskip : ∀ x ∈ part.clauses, x.token ≠ .semicolon ∧ x.token.isWord "return" = false :=
    fun x hx => ⟨(hclauses x hx).1, (hclauses x hx).2.1⟩
  rw [PartPhrase.lexemes, List.append_assoc, projections_skip hskip, ReturnPhrase.lexemes,
    List.cons_append, projections_return hreturning.word,
    scanProjection_lexemes hreturning hafter]
  rfl

/-- A further part gives its items too: the words that join it are passed
over. -/
theorem projections_union {u : UnionPhrase} {after : List Lexeme} (h : u.IsWellFormed)
    (hafter : EndsPart after) : projections (u.lexemes ++ after) =
      (projections after).map (.items u.part.returning.items :: ·) := by
  obtain ⟨hword, hall, hpart⟩ := h
  have hskip : ∀ x ∈ u.word :: u.all.toList,
      x.token ≠ .semicolon ∧ x.token.isWord "return" = false := by
    have hof {x : Lexeme} {word : String} (hx : x.token.isWord word = true)
        (hne : word ≠ "return") : x.token ≠ .semicolon ∧ x.token.isWord "return" = false := by
      refine ⟨fun heq => ?_, Token.isWord_of_ne hx hne⟩
      simp [heq] at hx
    intro x hx
    rcases List.mem_cons.1 hx with rfl | hx
    · exact hof hword (by decide)
    · exact hof (hall x (by simpa using hx)) (by decide)
  -- The words that join are none that returns, so what is left is a plain part.
  have hsplit : u.lexemes ++ after = (u.word :: u.all.toList) ++ (u.part.lexemes ++ after) := by
    simp [UnionPhrase.lexemes]
  rw [hsplit, projections_skip hskip, projections_part hpart hafter]

theorem endsPart_unions {us : List UnionPhrase} {semicolon : Option Lexeme}
    (hus : ∀ u ∈ us, u.IsWellFormed) (hsemicolon : ∀ x ∈ semicolon, x.token = .semicolon) :
    EndsPart (us.flatMap UnionPhrase.lexemes ++ semicolon.toList) := by
  intro x hx
  cases us with
  | nil =>
    cases semicolon with
    | none => simp at hx
    | some y =>
      cases hx
      exact .inl (hsemicolon _ rfl)
  | cons u us =>
    cases hx
    exact .inr (hus u (by simp)).word

theorem projections_unions {us : List UnionPhrase} {semicolon : Option Lexeme}
    (hus : ∀ u ∈ us, u.IsWellFormed) (hsemicolon : ∀ x ∈ semicolon, x.token = .semicolon) :
    projections (us.flatMap UnionPhrase.lexemes ++ semicolon.toList) =
      some (us.map fun u => .items u.part.returning.items) := by
  induction us with
  | nil => exact projections_semicolon hsemicolon
  | cons u us ih =>
    have hrest := fun v hv => hus v (List.mem_cons_of_mem u hv)
    rw [List.flatMap_cons, List.append_assoc,
      projections_union (hus u (by simp)) (endsPart_unions hrest hsemicolon), ih hrest]
    rfl

/-- **Every part of a query gives its items.** -/
theorem projections_query {q : Query} (h : q.IsWellFormed) : projections q.lexemes =
    some (.items q.first.returning.items ::
      q.more.map fun u => .items u.part.returning.items) := by
  rw [Query.lexemes, projections_part h.first (endsPart_unions h.more h.semicolon),
    projections_unions h.more h.semicolon]
  rfl

/-- The columns are those of the last projection. -/
theorem lastColumns_items (first : List Item) (more : List (List Item)) :
    lastColumns (.items first :: more.map .items) =
      .ok (((more.getLast?).getD first).map Item.column) := by
  induction more generalizing first with
  | nil => rfl
  | cons next more ih =>
    rw [List.map_cons, lastColumns, ih next]
    cases more with
    | nil => rfl
    | cons other more => simp [List.getLast?_cons]

/-! ### Texts of expressions -/

theorem isBlankChar_of_isGapChar {c : Char} (h : isGapChar c = true) : isBlankChar c = true := by
  rcases isGapChar_iff.1 h with rfl | rfl | rfl | rfl <;> decide

/-- An expression starts as its first token does. -/
theorem spelled_eq_append (x : Lexeme) (xs : List Lexeme) :
    ∃ rest, spelled (x :: xs) = x.token.chars ++ rest := by
  cases xs with
  | nil => exact ⟨[], by simp [spelled]⟩
  | cons y ys => exact ⟨x.gap ++ spelled (y :: ys), by simp [spelled, Lexeme.chars]⟩

/-- And it ends as its last token does. -/
theorem spelled_exists_last {xs : List Lexeme} (hne : xs ≠ [])
    (h : ∀ x ∈ xs, x.token.IsWellFormed) : ∃ init d, spelled xs = init ++ [d] ∧ IsVisibleChar d := by
  induction xs with
  | nil => exact absurd rfl hne
  | cons x xs ih =>
    cases xs with
    | nil => exact x.token.exists_last (h x (by simp))
    | cons y ys =>
      obtain ⟨init, d, hd, hvisible⟩ := ih (by simp) fun z hz => h z (by simp [hz])
      exact ⟨x.chars ++ init, d, by rw [spelled, hd, List.append_assoc], hvisible⟩

/-- **The text of an expression is what is written,** since the gaps inside it
belong to it and the gap after it is blank. -/
theorem expressionText_eq_spelled {xs : List Lexeme} (hne : xs ≠ [])
    (h : ∀ x ∈ xs, x.token.IsWellFormed ∧ IsBlankGap x.gap) : expressionText xs = spelled xs := by
  obtain ⟨init, d, hlast, hd⟩ := spelled_exists_last hne fun x hx => (h x hx).1
  cases xs with
  | nil => exact absurd rfl hne
  | cons x xs =>
    obtain ⟨htoken, hgap⟩ := h x (by simp)
    obtain ⟨c, cs, hcs, hc, -⟩ := x.token.exists_first htoken
    obtain ⟨rest, hrest⟩ := spelled_eq_append x xs
    have hfirst : spelled (x :: xs) = c :: (spelled (x :: xs)).tail := by
      rw [hrest, hcs]
      rfl
    -- Only a lone lexeme has its own gap in the text, and it is taken off.
    have htrim {gap : List Char} (hblank : ∀ b ∈ gap, isBlankChar b = true) :=
      trimChars_append_gap hfirst hlast (isBlankChar_of_isVisibleChar hc)
        (isBlankChar_of_isVisibleChar hd) hblank
    cases xs with
    | nil => exact htrim fun b hb => isBlankChar_of_isGapChar (hgap b hb)
    | cons y ys =>
      have hnone : trimChars (spelled (x :: y :: ys) ++ []) = spelled (x :: y :: ys) :=
        htrim (by simp)
      rwa [List.append_nil] at hnone

/-- So an item gives its column. -/
theorem column_toItem {item : ItemPhrase} (hitem : item.IsWellFormed)
    (h : ∀ x ∈ item.lexemes, x.token.IsWellFormed ∧ IsBlankGap x.gap) :
    item.toItem.column = item.column := by
  obtain ⟨expression, aliasPhrase⟩ := item
  cases aliasPhrase with
  | some a => rfl
  | none =>
    have htext : expressionText expression = spelled expression :=
      expressionText_eq_spelled hitem.expression.nonempty fun x hx =>
        h x (by simp [ItemPhrase.lexemes, hx])
    simp [ItemPhrase.toItem, Item.column, ItemPhrase.column, htext]

/-- And a part gives its columns. -/
theorem columns_items {r : ReturnPhrase} (hr : r.IsWellFormed)
    (h : ∀ x ∈ r.lexemes, x.token.IsWellFormed ∧ IsBlankGap x.gap) :
    r.items.map Item.column = r.columns := by
  have hfirst : r.first.toItem.column = r.first.column :=
    column_toItem hr.first fun x hx => h x (by simp [ReturnPhrase.lexemes, hx])
  have hmore : ∀ e ∈ r.more, e.2.toItem.column = e.2.column := fun e he =>
    column_toItem (hr.more e he).2 fun x hx => h x (by
      have : x ∈ moreLexemes r.more := List.mem_flatMap.2 ⟨e, he, by simp [hx]⟩
      simp [ReturnPhrase.lexemes, this])
  simp only [ReturnPhrase.items, ReturnPhrase.columns, List.map_cons, List.map_map, hfirst]
  exact congrArg _ (List.map_congr_left hmore)

/-! ### Columns -/

/-- **A query has the columns that its last part names.** -/
theorem returnColumns_query {q : Query} {lead : List Char} (hlead : IsBlankGap lead)
    (hq : q.IsWellFormed) (hseparated : Separated q.lexemes []) :
    returnColumns (String.ofList (lead ++ write q.lexemes)) = .ok q.columns := by
  -- The last part is the first one, or that of the last union.
  have hlast : q.lastPart.returning.IsWellFormed ∧
      ∀ x ∈ q.lastPart.returning.lexemes, x ∈ q.lexemes := by
    unfold Query.lastPart
    cases hcase : q.more.getLast? with
    | none =>
      refine ⟨hq.first.returning, fun x hx => ?_⟩
      have hmem : x ∈ q.first.returning.lexemes := hx
      simp [Query.lexemes, PartPhrase.lexemes, hmem]
    | some u =>
      have hu : u ∈ q.more := List.mem_of_getLast? hcase
      refine ⟨(hq.more u hu).part.returning, fun x hx => ?_⟩
      have hmem : x ∈ q.more.flatMap UnionPhrase.lexemes :=
        List.mem_flatMap.2 ⟨u, hu, by simp_all [UnionPhrase.lexemes, PartPhrase.lexemes]⟩
      simp [Query.lexemes, hmem]
  have hcolumns := columns_items hlast.1 fun x hx => hseparated.of_mem (hlast.2 x hx)
  have hitems : ((q.more.map fun u => u.part.returning.items).getLast?).getD
      q.first.returning.items = q.lastPart.returning.items := by
    rw [List.getLast?_map, Query.lastPart]
    cases q.more.getLast? <;> rfl
  have hfound : (.items q.first.returning.items ::
      q.more.map fun u => Projection.items u.part.returning.items) =
      .items q.first.returning.items ::
        (q.more.map fun u => u.part.returning.items).map .items := by
    rw [List.map_map]
    rfl
  rw [returnColumns, lexemes_write hlead hseparated, Option.bind_some, projections_query hq, hfound]
  simp only [lastColumns_items, hitems, hcolumns, Query.columns]

/-- Clauses alone return nothing. -/
theorem returnColumns_clauses {clauses : List Lexeme} {semicolon : Option Lexeme} {lead : List Char}
    (hlead : IsBlankGap lead) (hclauses : ∀ x ∈ clauses, IsClauseToken x.token)
    (hsemicolon : ∀ x ∈ semicolon, x.token = .semicolon)
    (hseparated : Separated (clauses ++ semicolon.toList) []) :
    returnColumns (String.ofList (lead ++ write (clauses ++ semicolon.toList))) =
      .error .noReturn := by
  have hskip : ∀ x ∈ clauses, x.token ≠ .semicolon ∧ x.token.isWord "return" = false :=
    fun x hx => ⟨(hclauses x hx).1, (hclauses x hx).2.1⟩
  rw [returnColumns, lexemes_write hlead hseparated, Option.bind_some, projections_skip hskip,
    projections_semicolon hsemicolon]
  rfl

/-- One lexeme with a token of an expression makes an expression. -/
theorem isExpression_singleton {x : Lexeme} (h : IsExpressionToken x.token) : IsExpression [x] where
  nonempty := by simp
  tokens := by simpa
  unordered := fun y z hyz => absurd hyz.length_le (by simp)

/-- It makes a longer one in front of an expression, unless it may begin an
ordering. -/
theorem isExpression_cons {x : Lexeme} {xs : List Lexeme} (hx : IsExpressionToken x.token)
    (horder : x.token.isWord "order" = false) (h : IsExpression xs) : IsExpression (x :: xs) where
  nonempty := by simp
  tokens := List.forall_mem_cons.2 ⟨hx, h.tokens⟩
  unordered := by
    intro a b hab
    rcases List.infix_cons_iff.1 hab with hprefix | hinfix
    · obtain ⟨rfl, -⟩ := List.cons_prefix_cons.1 hprefix
      simp [horder]
    · exact h.unordered a b hinfix

/-- The query that returns one name under an alias between accents. -/
def aliasQuery (content : List Char) : Query where
  first.returning.word := spacedWord "RETURN"
  first.returning.first.expression := [spacedWord "n"]
  first.returning.first.aliasPhrase := some ⟨spacedWord "AS", .escaped content, []⟩

theorem aliasQuery_isWellFormed (content : List Char) : (aliasQuery content).IsWellFormed where
  first.clauses := by simp [aliasQuery]
  first.returning.word := by simp [aliasQuery]; decide
  first.returning.distinct := by simp [aliasQuery]
  first.returning.first.expression := isExpression_singleton (by decide)
  first.returning.first.aliasWord := by simp [aliasQuery]; decide
  first.returning.plainStart := ⟨by simp [aliasQuery]; decide, by simp [aliasQuery]; decide⟩
  first.returning.more := by simp [aliasQuery]
  first.returning.tail := ⟨.inl rfl, by simp [aliasQuery]⟩
  more := by simp [aliasQuery]
  semicolon := by simp [aliasQuery]

/-- **Reading the columns undoes writing a query.** Parts are joined by
`UNION`, each of clauses and what it returns, with any white space between any
two tokens; the columns are those that the last part names. A part of clauses
alone returns nothing, and every text is the alias of some column. -/
theorem returnColumns_write {lead : List Char} (hlead : IsBlankGap lead) :
    (∀ q : Query, q.IsWellFormed → IsSpaced q.lexemes →
      returnColumns (String.ofList (lead ++ write q.lexemes)) = .ok q.columns) ∧
    (∀ (clauses : List Lexeme) (semicolon : Option Lexeme),
      (∀ x ∈ clauses, IsClauseToken x.token) → (∀ x ∈ semicolon, x.token = .semicolon) →
      IsSpaced (clauses ++ semicolon.toList) →
      returnColumns (String.ofList (lead ++ write (clauses ++ semicolon.toList))) =
        .error .noReturn) ∧
    ∀ text : String, ∃ q : Query, q.IsWellFormed ∧ IsSpaced q.lexemes ∧ q.columns = [text] := by
  refine ⟨fun q hq hspaced => ?_, fun clauses semicolon hclauses hsemicolon hspaced => ?_,
    fun text => ?_⟩
  · exact returnColumns_query hlead hq hspaced.separated
  · exact returnColumns_clauses hlead hclauses hsemicolon hspaced.separated
  · refine ⟨aliasQuery text.toList, aliasQuery_isWellFormed _, ?_, ?_⟩
    · have hname : IsSpaced [⟨.name (.escaped text.toList), []⟩] :=
        ⟨trivial, by simp [IsBlankGap]⟩
      exact isSpaced_spacedWord (by decide) (isSpaced_spacedWord (by decide)
        (isSpaced_spacedWord (by decide) hname))
    · simp [aliasQuery, Query.columns, Query.lastPart, ReturnPhrase.columns, ItemPhrase.column,
        Name.meaning]

/-- A query that holds the words of the language in a text, between accents,
after a point and among what orders the rows. -/
def wordyQuery : Query where
  first.clauses := [spacedWord "MATCH", ⟨.group "(n : \"] RETURN x\")".toList, ['\n']⟩]
  first.returning.word := spacedWord "RETURN"
  first.returning.first.expression := [spacedWord "n"]
  more := [{
    word := spacedWord "union"
    all := some (spacedWord "ALL")
    part.clauses := [spacedWord "Unwind", ⟨.name (.escaped "RETURN".toList), ['\t', ' ']⟩,
      ⟨.lookup (.plain "union".toList), [' ']⟩]
    part.returning.word := spacedWord "Return"
    part.returning.distinct := some (spacedWord "distinct")
    part.returning.first.expression := [spacedWord "count", ⟨.group "(*)".toList, ['\n', ' ']⟩]
    part.returning.more := [(⟨.comma, [' ']⟩, {
      expression := [spacedWord "n", ⟨.lookup (.plain "limit".toList), [' ']⟩]
      aliasPhrase := some ⟨spacedWord "as", .escaped "a`, b".toList, [' ']⟩ })]
    part.returning.tail := [spacedWord "ORDER", spacedWord "by", spacedWord "RETURN"] }]
  semicolon := some ⟨.semicolon, []⟩

theorem wordyQuery_isWellFormed : wordyQuery.IsWellFormed where
  first.clauses := by simp [wordyQuery, IsClauseToken]; decide
  first.returning.word := by decide
  first.returning.distinct := by simp [wordyQuery]
  first.returning.first.expression := isExpression_singleton (by decide)
  first.returning.first.aliasWord := by simp [wordyQuery]
  first.returning.plainStart := ⟨by decide, by decide⟩
  first.returning.more := by simp [wordyQuery]
  first.returning.tail := ⟨.inl rfl, by simp [wordyQuery]⟩
  more := by
    intro u hu
    obtain rfl := List.mem_singleton.1 hu
    exact {
      word := by decide
      all := by simp; decide
      part.clauses := by simp [IsClauseToken]; decide
      part.returning.word := by decide
      part.returning.distinct := by simp; decide
      part.returning.first.expression :=
        isExpression_cons (by decide) (by decide) (isExpression_singleton (by decide))
      part.returning.first.aliasWord := by simp
      part.returning.plainStart := ⟨by decide, by decide⟩
      part.returning.more := by
        intro e he
        obtain rfl := List.mem_singleton.1 he
        exact ⟨rfl, isExpression_cons (by decide) (by decide)
          (isExpression_singleton (by decide)), by simp; decide⟩
      part.returning.tail := ⟨.inr (by decide), by simp [IsTailToken]; decide⟩ }
  semicolon := by simp [wordyQuery]

theorem wordyQuery_isSpaced : IsSpaced wordyQuery.lexemes := by
  have hgap {gap : List Char} (h : gap.all isGapChar = true) : IsBlankGap gap := by
    simpa [IsBlankGap] using h
  have hcons {x y : Lexeme} {xs : List Lexeme} (hx : x.token.IsWellFormed)
      (hblank : x.gap.all isGapChar = true) (hne : x.gap ≠ []) (h : IsSpaced (y :: xs)) :
      IsSpaced (x :: y :: xs) := ⟨hx, hgap hblank, hne, h⟩
  have hmatch : IsGroup "(n : \"] RETURN x\")".toList := by
    have htext : IsLiteral "\"] RETURN x\"".toList := by
      refine ⟨'"', "] RETURN x".toList, by decide, ?_, by decide⟩
      repeat' first | exact .nil | refine .plain (by decide) (by decide) ?_
    have hname : IsGroupBody "n : ".toList := isGroupBody_of_all (by decide)
    exact ⟨'(', ')', _, by decide, hname.append (.literal htext .nil), by decide⟩
  have hcount : IsGroup "(*)".toList :=
    ⟨'(', ')', ['*'], by decide, isGroupBody_of_all (by decide), by decide⟩
  have hunion : (Name.plain "union".toList).IsWellFormed :=
    (by decide : isNameChars "union".toList = true)
  have hlimit : (Name.plain "limit".toList).IsWellFormed :=
    (by decide : isNameChars "limit".toList = true)
  -- the second part, from what it returns
  have hlast : IsSpaced (wordyQuery.lexemes.drop 9) := by
    refine isSpaced_spacedWord (by decide) (isSpaced_spacedWord (by decide)
      (isSpaced_spacedWord (by decide) (hcons hcount (by decide) (by decide)
        (hcons trivial (by decide) (by decide) (isSpaced_spacedWord (by decide) ?_)))))
    refine hcons hlimit (by decide) (by decide) (isSpaced_spacedWord (by decide)
      (hcons trivial (by decide) (by decide) (isSpaced_spacedWord (by decide)
        (isSpaced_spacedWord (by decide) (isSpaced_spacedWord (by decide) ?_)))))
    exact ⟨trivial, by simp [IsBlankGap]⟩
  exact isSpaced_spacedWord (by decide) (hcons hmatch (by decide) (by decide)
    (isSpaced_spacedWord (by decide) (isSpaced_spacedWord (by decide)
      (isSpaced_spacedWord (by decide) (isSpaced_spacedWord (by decide)
        (isSpaced_spacedWord (by decide) (hcons trivial (by decide) (by decide)
          (hcons hunion (by decide) (by decide) hlast))))))))

/-- Such a query has the columns it names all the same. -/
theorem returnColumns_wordyQuery : IsBlankGap [] ∧ wordyQuery.IsWellFormed ∧
    IsSpaced wordyQuery.lexemes ∧ returnColumns (String.ofList ([] ++ write wordyQuery.lexemes)) =
      .ok ["count (*)", "a`, b"] := by
  have hlead : IsBlankGap [] := by simp [IsBlankGap]
  have hread := (returnColumns_write hlead).1 wordyQuery wordyQuery_isWellFormed wordyQuery_isSpaced
  have hcolumns : wordyQuery.columns = ["count (*)", "a`, b"] := by decide
  exact ⟨hlead, wordyQuery_isWellFormed, wordyQuery_isSpaced, hcolumns ▸ hread⟩

end EntityGraph.Cypher
