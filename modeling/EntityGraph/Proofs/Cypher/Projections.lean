import EntityGraph.Proofs.Cypher.Query
/-!
# Projections read back

What reading makes of the phrases of a query, from the inside out: an
expression ends where something follows that ends expressions
(`splitExpression_expression`), an item where one does (`scanItem_lexemes`), and so
on up to the whole query (`projections_query`). At each level the law speaks
of any lexemes that may follow.
-/

namespace EntityGraph.Cypher

/-! ### Words -/

/-- A token is at most one word. -/
theorem Token.isWord_of_ne {t : Token} {word other : String} (h : t.isWord word = true)
    (hne : word ≠ other) : t.isWord other = false := by
  rw [Bool.eq_false_iff]
  intro hother
  cases t with
  | name n =>
    cases n with
    | plain cs =>
      simp only [Token.isWord, beq_iff_eq] at h hother
      exact hne (String.toList_inj.1 (h.symm.trans hother))
    | escaped content => simp [Token.isWord] at h
  | _ => simp [Token.isWord] at h

/-- A word is no symbol. -/
theorem Token.exists_name_of_isWord {t : Token} {word : String} (h : t.isWord word = true) :
    ∃ cs, t = .name (.plain cs) := by
  cases t with
  | name n =>
    cases n with
    | plain cs => exact ⟨cs, rfl⟩
    | escaped content => simp [Token.isWord] at h
  | _ => simp [Token.isWord] at h

@[simp] theorem Token.isWord_comma (word : String) : Token.comma.isWord word = false := rfl

@[simp] theorem Token.isWord_semicolon (word : String) : Token.semicolon.isWord word = false := rfl

theorem startsTail_cons (x : Lexeme) (xs : List Lexeme) : startsTail (x :: xs) =
    (x.token.isWord "order" && startsWithWord "by" xs || x.token.isWord "skip" ||
      x.token.isWord "limit") := rfl

/-- A tail starts with a word that orders or limits. -/
theorem exists_word_of_startsTail {x : Lexeme} {xs : List Lexeme}
    (h : startsTail (x :: xs) = true) :
    ∃ word ∈ ["order", "skip", "limit"], x.token.isWord word = true := by
  simp only [startsTail_cons, Bool.or_eq_true, Bool.and_eq_true] at h
  rcases h with (⟨horder, -⟩ | hskip) | hlimit
  · exact ⟨"order", by simp, horder⟩
  · exact ⟨"skip", by simp, hskip⟩
  · exact ⟨"limit", by simp, hlimit⟩

/-- That word is no other word and no symbol. -/
theorem isWord_of_startsTail {x : Lexeme} {xs : List Lexeme} (h : startsTail (x :: xs) = true)
    {other : String} (hother : other ∉ ["order", "skip", "limit"]) :
    x.token.isWord other = false ∧ ∃ cs, x.token = .name (.plain cs) := by
  obtain ⟨word, hmem, hword⟩ := exists_word_of_startsTail h
  exact ⟨Token.isWord_of_ne hword fun heq => hother (heq ▸ hmem), Token.exists_name_of_isWord hword⟩

/-- What ends an expression does not start with the word after the one that
orders. -/
theorem startsWithWord_by_of_ends {xs : List Lexeme} (h : endsExpression xs = true) :
    startsWithWord "by" xs = false := by
  cases xs with
  | nil => rfl
  | cons x rest =>
    simp only [endsExpression, startsTail, startsWithWords, startsWithWord, Bool.or_eq_true,
      decide_eq_true_eq, Bool.and_eq_true] at h ⊢
    rcases h with (((h | h) | h) | h) | (⟨h, -⟩ | h) | h
    · rw [h]; rfl
    · rw [h]; rfl
    all_goals exact Token.isWord_of_ne h (by decide)

/-! ### Expressions and items -/

/-- **An expression is read up to what ends it.** -/
theorem splitExpression_expression {expression after : List Lexeme}
    (htokens : ∀ x ∈ expression, IsExpressionToken x.token)
    (hunordered : ∀ x y, [x, y] <:+: expression → ¬ (x.token.isWord "order" = true ∧
      y.token.isWord "by" = true))
    (hend : endsExpression after = true) :
    splitExpression (expression ++ after) = (expression, after) := by
  induction expression with
  | nil =>
    cases after with
    | nil => rfl
    | cons x rest => simp [splitExpression, hend]
  | cons x expression ih =>
    have htail := ih (fun y hy => htokens y (by simp [hy]))
      fun y z hyz => hunordered y z (hyz.trans (List.infix_cons (List.infix_refl _)))
    obtain ⟨hcomma, hsemicolon, has, hskip, hlimit, hunion⟩ := htokens x (by simp)
    -- The word that orders may only come last, and then no ordering follows.
    have horder : (x.token.isWord "order" && startsWithWord "by" (expression ++ after)) = false := by
      rw [Bool.and_eq_false_iff]
      by_cases hx : x.token.isWord "order" = true
      · right
        cases expression with
        | nil => exact startsWithWord_by_of_ends hend
        | cons y expression =>
          rw [List.cons_append, startsWithWord, Bool.eq_false_iff]
          intro hy
          exact hunordered x y ⟨[], expression, rfl⟩ ⟨hx, hy⟩
      · exact .inl (by simpa using hx)
    have hgoes : endsExpression (x :: (expression ++ after)) = false := by
      simp [endsExpression, startsTail_cons, hcomma, hsemicolon, has, hunion, horder, hskip, hlimit]
    rw [List.cons_append, splitExpression]
    simp [hgoes, htail]

/-- What an item is read as. -/
def ItemPhrase.toItem (item : ItemPhrase) : Item :=
  ⟨item.expression, item.aliasPhrase.map AliasPhrase.name⟩

theorem scanItem_lexemes {item : ItemPhrase} {after : List Lexeme} (h : item.IsWellFormed)
    (hend : endsExpression after = true) (halias : startsWithWord "as" after = false) :
    scanItem (item.lexemes ++ after) = some (item.toItem, after) := by
  obtain ⟨⟨hne, htokens, hunordered⟩, hword⟩ := h
  obtain ⟨expression, aliasPhrase⟩ := item
  cases aliasPhrase with
  | none =>
    have hsplit := splitExpression_expression htokens hunordered hend
    have hscan : scanAlias after = (none, after) := by
      unfold scanAlias
      split
      · simp_all [startsWithWord]
      · rfl
    simp [ItemPhrase.lexemes, ItemPhrase.toItem, scanItem, hsplit, hne, hscan]
  | some a =>
    have has : a.word.token.isWord "as" = true := hword a rfl
    have hends : endsExpression (a.lexemes ++ after) = true := by
      simp [AliasPhrase.lexemes, endsExpression, has]
    have hsplit := splitExpression_expression htokens hunordered hends
    have hscan : scanAlias (a.lexemes ++ after) = (some a.name, after) := by
      simp [AliasPhrase.lexemes, scanAlias, has]
    simp [ItemPhrase.lexemes, ItemPhrase.toItem, scanItem, hsplit, hne, hscan]

/-- A further item is read after its comma. -/
theorem scanMoreItems_comma {x : Lexeme} {rest : List Lexeme} (hx : x.token = .comma) :
    scanMoreItems (x :: rest) =
      match scanItem rest with
      | none => ([], x :: rest)
      | some (item, after) => (item :: (scanMoreItems after).1, (scanMoreItems after).2) := by
  rw [scanMoreItems]
  simp only [hx, ↓reduceIte]
  split <;> simp_all

theorem scanMoreItems_of_ne_comma {after : List Lexeme}
    (h : ∀ x, after.head? = some x → x.token ≠ .comma) : scanMoreItems after = ([], after) := by
  cases after with
  | nil => rw [scanMoreItems]
  | cons x rest => rw [scanMoreItems, if_neg (h x rfl)]

/-- A comma with nothing after it that starts an item is left over. -/
theorem scanMoreItems_stop {x : Lexeme} {rest : List Lexeme} (hx : x.token = .comma)
    (hrest : endsExpression rest = true) : scanMoreItems (x :: rest) = ([], x :: rest) := by
  have hsplit : splitExpression rest = ([], rest) := by
    cases rest with
    | nil => rfl
    | cons y rest => rw [splitExpression, if_pos hrest]
  rw [scanMoreItems_comma hx, scanItem, hsplit]
  rfl

/-- Nothing, or what no item goes on with and no further item starts from. -/
structure EndsItems (after : List Lexeme) : Prop where
  expression : endsExpression after = true
  noAlias : startsWithWord "as" after = false
  noItem : scanMoreItems after = ([], after)

/-- **The further items are read to the last.** -/
theorem scanMoreItems_lexemes {more : List (Lexeme × ItemPhrase)} {after : List Lexeme}
    (hmore : ∀ e ∈ more, e.1.token = .comma ∧ e.2.IsWellFormed) (hafter : EndsItems after) :
    scanMoreItems (moreLexemes more ++ after) = (more.map fun e => e.2.toItem, after) := by
  induction more with
  | nil => exact hafter.noItem
  | cons e more ih =>
    obtain ⟨comma, item⟩ := e
    obtain ⟨hcomma, hitem⟩ := hmore (comma, item) (by simp)
    have hrest := ih fun e he => hmore e (by simp [he])
    -- After an item comes the comma of the next, or what ends the items.
    have hnext : endsExpression (moreLexemes more ++ after) = true ∧
        startsWithWord "as" (moreLexemes more ++ after) = false := by
      cases more with
      | nil => exact ⟨hafter.expression, hafter.noAlias⟩
      | cons e more =>
        obtain ⟨hcomma, -⟩ := hmore e (by simp)
        simp [moreLexemes, endsExpression, startsWithWord, hcomma]
    have hscan := scanItem_lexemes hitem hnext.1 hnext.2
    have hsplit : moreLexemes ((comma, item) :: more) ++ after =
        comma :: (item.lexemes ++ (moreLexemes more ++ after)) := by
      simp [moreLexemes]
    rw [hsplit, scanMoreItems_comma hcomma, hscan]
    simp [hrest]

/-! ### Returns -/

def ReturnPhrase.items (r : ReturnPhrase) : List Item :=
  r.first.toItem :: r.more.map fun e => e.2.toItem

/-- Nothing, or a word or symbol that can only come after a part. -/
def EndsPart (after : List Lexeme) : Prop :=
  ∀ x, after.head? = some x → x.token = .semicolon ∨ x.token.isWord "union" = true

theorem EndsPart.not_startsTail {after : List Lexeme} (h : EndsPart after) :
    startsTail after = false := by
  cases after with
  | nil => rfl
  | cons x rest =>
    rcases h x rfl with hx | hx
    · simp [startsTail, startsWithWords, startsWithWord, hx]
    · have horder : x.token.isWord "order" = false := Token.isWord_of_ne hx (by decide)
      have hskip : x.token.isWord "skip" = false := Token.isWord_of_ne hx (by decide)
      have hlimit : x.token.isWord "limit" = false := Token.isWord_of_ne hx (by decide)
      simp [startsTail, startsWithWords, startsWithWord, horder, hskip, hlimit]

/-- What starts a tail starts it whatever comes after. -/
theorem startsTail_append {tail : List Lexeme} (h : startsTail tail = true) (after : List Lexeme) :
    startsTail (tail ++ after) = true := by
  cases tail with
  | nil => simp [startsTail, startsWithWords, startsWithWord] at h
  | cons x rest =>
    rw [List.cons_append, startsTail_cons]
    rw [startsTail_cons] at h
    cases rest with
    | nil =>
      simp only [startsWithWord, Bool.and_false, Bool.false_or, Bool.or_eq_true] at h
      rcases h with h | h <;> simp [h]
    | cons y rest => exact h

/-- The items end where a tail starts, and where the part ends. -/
theorem endsItems_tail {tail after : List Lexeme} (htail : IsTail tail) (hafter : EndsPart after) :
    EndsItems (tail ++ after) := by
  cases tail with
  | nil =>
    cases after with
    | nil => exact ⟨rfl, rfl, scanMoreItems_of_ne_comma (by simp)⟩
    | cons x rest =>
      rcases hafter x rfl with hx | hx
      · refine ⟨by simp [endsExpression, hx], by simp [startsWithWord, hx], ?_⟩
        exact scanMoreItems_of_ne_comma (by simp [hx])
      · obtain ⟨cs, hcs⟩ := Token.exists_name_of_isWord hx
        have has : x.token.isWord "as" = false := Token.isWord_of_ne hx (by decide)
        refine ⟨by simp [endsExpression, hx], by simpa [startsWithWord] using has, ?_⟩
        exact scanMoreItems_of_ne_comma (by simp [hcs])
  | cons x rest =>
    have hstarts : startsTail (x :: rest) = true := htail.starts.resolve_left (by simp)
    obtain ⟨has, cs, hcs⟩ := isWord_of_startsTail hstarts (by decide : "as" ∉ _)
    have hends := startsTail_append hstarts after
    refine ⟨?_, has, scanMoreItems_of_ne_comma ?_⟩
    · rw [List.cons_append] at hends ⊢
      simp [endsExpression, hends]
    · intro y hy
      cases hy
      simp [hcs]

/-- **Ordering and limits are passed over to the end of the part.** -/
theorem skipTail_tail {tail after : List Lexeme} (htail : IsTail tail) (hafter : EndsPart after) :
    skipTail (tail ++ after) = after := by
  rcases htail.starts with rfl | hstarts
  · rw [List.nil_append, skipTail, hafter.not_startsTail]
    rfl
  · have hgo : ∀ x ∈ tail, (!(x.token.isWord "union" || x.token = .semicolon)) = true := by
      intro x hx
      obtain ⟨hsemicolon, hunion⟩ := htail.tokens x hx
      simp [hsemicolon, hunion]
    rw [skipTail, if_pos (startsTail_append hstarts after), List.dropWhile_append_of_pos hgo]
    cases after with
    | nil => rfl
    | cons x rest =>
      rcases hafter x rfl with hx | hx <;> simp [hx]

/-- **Items are read up to what ends them,** whether that may come after a part
or not. -/
theorem scanProjection_items {r : ReturnPhrase} {after : List Lexeme} (h : r.IsWellFormed)
    (hafter : EndsItems after) :
    scanProjection (r.distinct.toList ++ (r.first.lexemes ++ (moreLexemes r.more ++ after))) =
      some (.items r.items, skipTail after) := by
  obtain ⟨-, hdistinct, hfirst, ⟨hstar, hplain⟩, hmore, -⟩ := h
  have hscanmore := scanMoreItems_lexemes hmore hafter
  have hnext : endsExpression (moreLexemes r.more ++ after) = true ∧
      startsWithWord "as" (moreLexemes r.more ++ after) = false := by
    cases hcase : r.more with
    | nil => exact ⟨hafter.expression, hafter.noAlias⟩
    | cons e more =>
      obtain ⟨hcomma, -⟩ := hmore e (by simp [hcase])
      simp [moreLexemes, endsExpression, startsWithWord, hcomma]
  have hscan := scanItem_lexemes hfirst hnext.1 hnext.2
  -- The first lexeme of the items is that of the first expression.
  obtain ⟨x, rest, hx⟩ : ∃ x rest, r.first.lexemes ++ (moreLexemes r.more ++ after) =
      x :: rest ∧ r.first.expression.head? = some x := by
    cases hcase : r.first.expression with
    | nil => exact absurd hcase hfirst.expression.nonempty
    | cons x rest => exact ⟨x, _, by simp [ItemPhrase.lexemes, hcase]; rfl, rfl⟩
  have hstart : startsWithStar (x :: rest) = false ∧ startsWithWord "distinct" (x :: rest) = false := by
    cases hcase : r.first.expression with
    | nil => exact absurd hcase hfirst.expression.nonempty
    | cons y ys =>
      rw [hcase] at hstar hplain hx
      cases hx.2
      exact ⟨hstar, hplain⟩
  have hskip : skipDistinct (r.distinct.toList ++ (x :: rest)) = x :: rest := by
    cases hcase : r.distinct with
    | none => simp [skipDistinct, hstart.2]
    | some d => simp [skipDistinct, startsWithWord, hdistinct d hcase]
  rw [hx.1, scanProjection, hskip]
  rw [hx.1] at hscan
  simp [hstart.1, hscan, hscanmore, ReturnPhrase.items]

/-- **What a part returns is read as its items.** -/
theorem scanProjection_lexemes {r : ReturnPhrase} {after : List Lexeme} (h : r.IsWellFormed)
    (hafter : EndsPart after) :
    scanProjection (r.distinct.toList ++ (r.first.lexemes ++ (moreLexemes r.more ++ r.tail)) ++
      after) = some (.items r.items, after) := by
  have hread := scanProjection_items h (endsItems_tail h.tail hafter)
  rw [skipTail_tail h.tail hafter] at hread
  simpa only [List.append_assoc] using hread

end EntityGraph.Cypher
