import EntityGraph.Proofs.Cypher.Columns
import Mathlib.Data.List.Forall2
/-!
# Groups that are not returned

Reading projections asks of a group only that it is one. So where two lists of
lexemes have two groups in one place and are the same everywhere else, reading
them goes on in step: it has passed the place in both and the rest is the same,
or it has come to the place in neither and has read the same (`InStep`). The
last projection is then the same in both if the place is outside of what is
listed there (`lastColumns_exchange`).
-/

namespace EntityGraph.Cypher

/-! ### Lists with two groups in one place -/

/-- A lexeme whose token is a group. -/
def Lexeme.IsGroup (x : Lexeme) : Prop :=
  ∃ text, x.token = .group text

/-- Lists that are the same, but for two lexemes with the same behind them. -/
def Exchanged (x y : Lexeme) (back xs ys : List Lexeme) : Prop :=
  xs = ys ∨ ∃ front, xs = front ++ x :: back ∧ ys = front ++ y :: back

/-- **Two readings are in step** when both have passed the place of two lexemes
to the same rest, or neither has come to the place and they have read the
same. -/
def InStep {α : Type} (x y : Lexeme) (back : List Lexeme) (a b : α × List Lexeme) : Prop :=
  (a.2 = b.2 ∧ a.2.length ≤ back.length) ∨
    (a.1 = b.1 ∧ ∃ front, a.2 = front ++ x :: back ∧ b.2 = front ++ y :: back)

theorem InStep.exchanged {α : Type} {x y : Lexeme} {back : List Lexeme} {a b : α × List Lexeme}
    (h : InStep x y back a b) : Exchanged x y back a.2 b.2 :=
  h.imp And.left And.right

/-- Readings in step stay so when one more thing is read that stays in step from
the place on. -/
theorem InStep.andThen {α β γ : Type} {x y : Lexeme} {back : List Lexeme} {a b : α × List Lexeme}
    (h : InStep x y back a b) (combine : α → β → γ) {next : List Lexeme → β × List Lexeme}
    (hlength : ∀ xs, (next xs).2.length ≤ xs.length)
    (hnext : ∀ front, a.2 = front ++ x :: back →
      InStep x y back (next (front ++ x :: back)) (next (front ++ y :: back))) :
    InStep x y back (combine a.1 (next a.2).1, (next a.2).2)
      (combine b.1 (next b.2).1, (next b.2).2) := by
  rcases h with ⟨hrest, hle⟩ | ⟨hread, front, ha, hb⟩
  · exact .inl ⟨by simp only [hrest], (hlength _).trans hle⟩
  · rw [ha, hb, hread]
    exact (hnext front ha).imp id (And.imp_left (congrArg (combine b.1)))

variable {x y : Lexeme} (hx : x.IsGroup) (hy : y.IsGroup) (front back : List Lexeme)
include hx hy

theorem startsWithWord_exchange (word : String) :
    startsWithWord word (front ++ x :: back) = startsWithWord word (front ++ y :: back) := by
  obtain ⟨text, htext⟩ := hx
  obtain ⟨other, hother⟩ := hy
  cases front with
  | nil => simp [startsWithWord, htext, hother, Token.isWord]
  | cons l front => rfl

theorem startsTail_exchange :
    startsTail (front ++ x :: back) = startsTail (front ++ y :: back) := by
  cases front with
  | nil =>
    obtain ⟨text, htext⟩ := hx
    obtain ⟨other, hother⟩ := hy
    simp [startsTail_cons, htext, hother, Token.isWord]
  | cons l front =>
    rw [List.cons_append, List.cons_append, startsTail_cons, startsTail_cons,
      startsWithWord_exchange hx hy]

omit hy in
/-- An expression goes on with a group. -/
theorem endsExpression_group : endsExpression (x :: back) = false := by
  obtain ⟨text, htext⟩ := hx
  simp [endsExpression, startsTail_cons, htext, Token.isWord]

theorem endsExpression_exchange :
    endsExpression (front ++ x :: back) = endsExpression (front ++ y :: back) := by
  have htail := startsTail_exchange hx hy front back
  cases front with
  | nil => exact (endsExpression_group hx back).trans (endsExpression_group hy back).symm
  | cons l front =>
    rw [List.cons_append, List.cons_append] at htail ⊢
    simp only [endsExpression, htail]

/-! ### Items -/

omit hx hy in
theorem isEmpty_splitExpression (xs : List Lexeme) :
    (splitExpression xs).1.isEmpty = endsExpression xs := by
  cases xs with
  | nil => rfl
  | cons l xs =>
    rw [splitExpression]
    split
    · next h => simp [h]
    · next h => simp [h]

omit hx hy in
theorem splitExpression_length_le (xs : List Lexeme) :
    (splitExpression xs).2.length ≤ xs.length := by
  have happend := congrArg List.length (splitExpression_append xs)
  rw [List.length_append] at happend
  omega

theorem splitExpression_inStep : InStep x y back (splitExpression (front ++ x :: back))
    (splitExpression (front ++ y :: back)) := by
  induction front with
  | nil =>
    -- The group is part of the expression, and what follows is the same.
    rw [List.nil_append, List.nil_append, splitExpression, splitExpression,
      if_neg (by simp [endsExpression_group hx]), if_neg (by simp [endsExpression_group hy])]
    exact .inl ⟨rfl, splitExpression_length_le back⟩
  | cons l front ih =>
    have hends := endsExpression_exchange hx hy (l :: front) back
    rw [List.cons_append, List.cons_append] at hends ⊢
    rw [splitExpression, splitExpression, hends]
    split
    · exact .inr ⟨rfl, l :: front, rfl, rfl⟩
    · exact ih.imp id (And.imp_left (congrArg (l :: ·)))

/-- No alias is a group. -/
theorem scanAlias_inStep : InStep x y back (scanAlias (front ++ x :: back))
    (scanAlias (front ++ y :: back)) := by
  obtain ⟨text, htext⟩ := hx
  obtain ⟨other, hother⟩ := hy
  have hstays (front' : List Lexeme) (a : Option Name) :
      InStep x y back (a, front' ++ x :: back) (a, front' ++ y :: back) :=
    .inr ⟨rfl, front', rfl, rfl⟩
  have hnone {z : Lexeme} {cs : List Char} (hz : z.token = .group cs) :
      scanAlias (z :: back) = (none, z :: back) := by
    cases back <;> simp [scanAlias, hz, Token.isWord]
  cases front with
  | nil =>
    rw [List.nil_append, List.nil_append, hnone htext, hnone hother]
    exact hstays [] none
  | cons l front =>
    cases front with
    | nil =>
      simp only [List.singleton_append, scanAlias, htext, hother, ite_self]
      exact hstays [l] none
    | cons m front =>
      simp only [List.cons_append, scanAlias]
      split
      · split
        · exact hstays front _
        · exact hstays (l :: m :: front) none
      · exact hstays (l :: m :: front) none

theorem scanItem_inStep : Option.Rel (InStep x y back) (scanItem (front ++ x :: back))
    (scanItem (front ++ y :: back)) := by
  have hempty : (splitExpression (front ++ x :: back)).1.isEmpty =
      (splitExpression (front ++ y :: back)).1.isEmpty := by
    rw [isEmpty_splitExpression, isEmpty_splitExpression, endsExpression_exchange hx hy]
  simp only [scanItem, hempty]
  split
  · exact .none
  · exact .some ((splitExpression_inStep hx hy front back).andThen Item.mk scanAlias_length_le
      fun front' _ => scanAlias_inStep hx hy front' back)

theorem scanMoreItems_inStep : InStep x y back (scanMoreItems (front ++ x :: back))
    (scanMoreItems (front ++ y :: back)) := by
  induction hn : front.length using Nat.strong_induction_on generalizing front with
  | _ n ih =>
    cases front with
    | nil =>
      have hnone {z : Lexeme} (hz : z.IsGroup) : scanMoreItems (z :: back) = ([], z :: back) := by
        obtain ⟨text, htext⟩ := hz
        exact scanMoreItems_of_ne_comma (by simp [htext])
      rw [List.nil_append, List.nil_append, hnone hx, hnone hy]
      exact .inr ⟨rfl, [], rfl, rfl⟩
    | cons l front =>
      by_cases hl : l.token = .comma
      · have hitem := scanItem_inStep hx hy front back
        rw [List.cons_append, List.cons_append, scanMoreItems_comma hl, scanMoreItems_comma hl]
        generalize hscan : scanItem (front ++ x :: back) = a at hitem ⊢
        generalize scanItem (front ++ y :: back) = b at hitem ⊢
        cases hitem with
        | none => exact .inr ⟨rfl, l :: front, rfl, rfl⟩
        | some hstep =>
          refine hstep.andThen List.cons scanMoreItems_length_le fun front' h => ?_
          have hlt : front'.length < n := by
            have hshorter := length_lt_of_scanItem hscan
            rw [h, List.length_append, List.length_append] at hshorter
            rw [← hn, List.length_cons]
            omega
          exact ih _ hlt front' rfl
      · have hnone (rest : List Lexeme) : scanMoreItems (l :: rest) = ([], l :: rest) :=
          scanMoreItems_of_ne_comma (by simpa using hl)
        rw [List.cons_append, List.cons_append, hnone, hnone]
        exact .inr ⟨rfl, l :: front, rfl, rfl⟩

omit hx hy in
/-- The items after a word that returns, and what follows them. -/
def scanItems (xs : List Lexeme) : Option (List Item × List Lexeme) :=
  (scanItem (skipDistinct xs)).map fun (first, after) =>
    (first :: (scanMoreItems after).1, (scanMoreItems after).2)

omit hx hy in
theorem scanProjection_eq (xs : List Lexeme) : scanProjection xs =
    if startsWithStar (skipDistinct xs) then some (.all, skipTail ((skipDistinct xs).drop 1))
    else (scanItems xs).map fun (items, rest) => (.items items, skipTail rest) := by
  rw [scanProjection, scanItems, Option.map_map]
  rfl

theorem skipDistinct_exchange : ∃ front', skipDistinct (front ++ x :: back) = front' ++ x :: back ∧
    skipDistinct (front ++ y :: back) = front' ++ y :: back := by
  have hword := startsWithWord_exchange hx hy front back "distinct"
  rw [skipDistinct, skipDistinct, hword]
  split
  · next hdistinct =>
    cases front with
    | nil =>
      obtain ⟨text, htext⟩ := hy
      simp [startsWithWord, htext, Token.isWord] at hdistinct
    | cons l front => exact ⟨front, rfl, rfl⟩
  · exact ⟨front, rfl, rfl⟩

theorem scanItems_inStep : Option.Rel (InStep x y back) (scanItems (front ++ x :: back))
    (scanItems (front ++ y :: back)) := by
  obtain ⟨front', h, h'⟩ := skipDistinct_exchange hx hy front back
  have hitem := scanItem_inStep hx hy front' back
  rw [scanItems, scanItems, h, h']
  generalize scanItem (front' ++ x :: back) = a at hitem ⊢
  generalize scanItem (front' ++ y :: back) = b at hitem ⊢
  cases hitem with
  | none => exact .none
  | some hstep =>
    exact .some (hstep.andThen List.cons scanMoreItems_length_le
      fun front'' _ => scanMoreItems_inStep hx hy front'' back)

theorem skipTail_exchange : Exchanged x y back (skipTail (front ++ x :: back))
    (skipTail (front ++ y :: back)) := by
  have hdrop (front : List Lexeme) : Exchanged x y back
      ((front ++ x :: back).dropWhile fun z =>
        !(z.token.isWord "union" || z.token = .semicolon))
      ((front ++ y :: back).dropWhile fun z =>
        !(z.token.isWord "union" || z.token = .semicolon)) := by
    obtain ⟨text, htext⟩ := hx
    obtain ⟨other, hother⟩ := hy
    induction front with
    | nil => exact .inl (by simp [htext, hother, Token.isWord])
    | cons l front ih =>
      rw [List.cons_append, List.cons_append, List.dropWhile_cons, List.dropWhile_cons]
      split
      · exact ih
      · exact .inr ⟨l :: front, rfl, rfl⟩
  rw [skipTail, skipTail, startsTail_exchange hx hy]
  split
  · exact hdrop front
  · exact .inr ⟨front, rfl, rfl⟩

/-! ### Projections -/

theorem startsWithStar_exchange :
    startsWithStar (front ++ x :: back) = startsWithStar (front ++ y :: back) := by
  obtain ⟨text, htext⟩ := hx
  obtain ⟨other, hother⟩ := hy
  cases front with
  | nil => simp [startsWithStar, htext, hother]
  | cons l front => rfl

theorem scanProjection_exchange :
    Option.Rel (fun a b => (a.1 = .all ↔ b.1 = .all) ∧ Exchanged x y back a.2 b.2)
      (scanProjection (front ++ x :: back)) (scanProjection (front ++ y :: back)) := by
  have hitems := scanItems_inStep hx hy front back
  obtain ⟨front', h, h'⟩ := skipDistinct_exchange hx hy front back
  rw [scanProjection_eq, scanProjection_eq, h, h', startsWithStar_exchange hx hy]
  split
  · next hstar =>
    refine .some ⟨Iff.rfl, ?_⟩
    cases front' with
    | nil =>
      obtain ⟨text, htext⟩ := hy
      simp [startsWithStar, htext] at hstar
    | cons l front' => exact skipTail_exchange hx hy front' back
  · generalize scanItems (front ++ x :: back) = a at hitems ⊢
    generalize scanItems (front ++ y :: back) = b at hitems ⊢
    cases hitems with
    | none => exact .none
    | some hstep =>
      refine .some ⟨by simp, ?_⟩
      rcases hstep.exchanged with hrest | ⟨front'', h, h'⟩
      · exact .inl (congrArg skipTail hrest)
      · show Exchanged x y back (skipTail _) (skipTail _)
        rw [h, h']
        exact skipTail_exchange hx hy front'' back

omit hx hy in
/-- What stands behind each word that returns, as far as reading goes on. -/
def returnsOf (xs : List Lexeme) : List (List Lexeme) :=
  match xs with
  | [] => []
  | x :: rest =>
    if x.token.isWord "return" then
      match _scanned : scanProjection rest with
      | none => [rest]
      | some (_, after) => rest :: returnsOf after
    else returnsOf rest
termination_by xs.length
decreasing_by
  · exact Nat.lt_succ_of_le (length_le_of_scanProjection _scanned)
  · exact Nat.lt_succ_self _

omit hx hy in
theorem returnsOf_return {l : Lexeme} {rest after : List Lexeme} {projection : Projection}
    (hl : l.token.isWord "return" = true) (h : scanProjection rest = some (projection, after)) :
    returnsOf (l :: rest) = rest :: returnsOf after := by
  rw [returnsOf, if_pos hl]
  split <;> simp_all

omit hx hy in
theorem returnsOf_skip {l : Lexeme} {rest : List Lexeme} (hl : l.token.isWord "return" = false) :
    returnsOf (l :: rest) = returnsOf rest := by
  rw [returnsOf, if_neg (by simp [hl])]

omit hx hy in
/-- **The projections are those behind the words that return.** -/
theorem map_returnsOf {xs : List Lexeme} {found : List Projection}
    (h : projections xs = some found) :
    (returnsOf xs).map (fun rest => (scanProjection rest).map Prod.fst) = found.map some := by
  fun_induction projections xs generalizing found with
  | case1 =>
    cases h
    rw [returnsOf]
    rfl
  | case2 l rest hsemicolon hend =>
    cases h
    have hnil : rest = [] := by simpa using hend
    rw [hnil, returnsOf_skip (by simp [hsemicolon]), returnsOf]
    rfl
  | case3 => simp at h
  | case4 => simp at h
  | case5 l rest hsemicolon hl projection after hscan ih =>
    obtain ⟨more, hmore, rfl⟩ := Option.map_eq_some_iff.1 h
    rw [returnsOf_return hl hscan, List.map_cons, ih hmore, hscan]
    rfl
  | case6 l rest hsemicolon hl ih =>
    rw [returnsOf_skip (by simpa using hl)]
    exact ih h

theorem projections_exchange {found : List Projection}
    (h : projections (front ++ x :: back) = some found) :
    ∃ found', projections (front ++ y :: back) = some found' ∧
      List.Forall₂ (Exchanged x y back) (returnsOf (front ++ x :: back))
        (returnsOf (front ++ y :: back)) := by
  induction hn : front.length using Nat.strong_induction_on generalizing front found with
  | _ n ih =>
    have hpassed {l : Lexeme} {rest : List Lexeme} (hsemicolon : l.token ≠ .semicolon)
        (hreturn : l.token.isWord "return" = false) :
        projections (l :: rest) = projections rest ∧ returnsOf (l :: rest) = returnsOf rest := by
      refine ⟨?_, returnsOf_skip hreturn⟩
      exact projections_skip (List.forall_mem_singleton.2 ⟨hsemicolon, hreturn⟩)
    have hgroup {z : Lexeme} (hz : z.IsGroup) :
        projections (z :: back) = projections back ∧ returnsOf (z :: back) = returnsOf back := by
      obtain ⟨text, htext⟩ := hz
      exact hpassed (by simp [htext]) (by simp [htext, Token.isWord])
    cases front with
    | nil =>
      rw [List.nil_append, (hgroup hx).1] at h
      refine ⟨found, (hgroup hy).1.trans h, ?_⟩
      rw [List.nil_append, List.nil_append, (hgroup hx).2, (hgroup hy).2]
      exact List.forall₂_same.2 fun _ _ => .inl rfl
    | cons l front =>
      have hlt : front.length < n := by rw [← hn]; exact Nat.lt_succ_self _
      rw [List.cons_append] at h ⊢
      rw [List.cons_append]
      by_cases hsemicolon : l.token = .semicolon
      · rw [projections, if_pos hsemicolon, if_neg (by simp)] at h
        simp at h
      · by_cases hreturn : l.token.isWord "return" = true
        · have hstep := scanProjection_exchange hx hy front back
          rw [projections_return hreturn] at h ⊢
          generalize hscan : scanProjection (front ++ x :: back) = a at hstep h
          generalize hscan' : scanProjection (front ++ y :: back) = b at hstep
          cases hstep with
          | none => simp at h
          | @some a b hstep =>
            obtain ⟨projection, after⟩ := a
            obtain ⟨projection', after'⟩ := b
            obtain ⟨more, hmore, -⟩ := Option.map_eq_some_iff.1 h
            rw [returnsOf_return hreturn hscan, returnsOf_return hreturn hscan']
            have hhere : Exchanged x y back (front ++ x :: back) (front ++ y :: back) :=
              .inr ⟨front, rfl, rfl⟩
            rcases hstep.2 with hsame | ⟨front', h, h'⟩
            · obtain rfl : after = after' := hsame
              exact ⟨projection' :: more, by simp [hmore],
                .cons hhere (List.forall₂_same.2 fun _ _ => .inl rfl)⟩
            · obtain rfl : after = front' ++ x :: back := h
              obtain rfl : after' = front' ++ y :: back := h'
              have hshorter : front'.length < n := by
                have hle := length_le_of_scanProjection hscan
                rw [List.length_append, List.length_append] at hle
                omega
              obtain ⟨more', hmore', hrest⟩ := ih _ hshorter front' hmore rfl
              exact ⟨projection' :: more', by simp [hmore'], .cons hhere hrest⟩
        · rw [Bool.not_eq_true] at hreturn
          rw [(hpassed hsemicolon hreturn).1] at h
          rw [(hpassed hsemicolon hreturn).1, (hpassed hsemicolon hreturn).2,
            (hpassed hsemicolon hreturn).2]
          exact ih _ hlt front h rfl

/-! ### Columns -/

omit hx hy in
/-- A place is outside of what is listed behind a word that returns: it comes
after all the items, or before the word. -/
def IsOutside (x : Lexeme) (back rest : List Lexeme) : Prop :=
  rest <:+ back ∨ ∃ items after, scanItems rest = some (items, after) ∧ x :: back <:+ after

omit hx hy in
theorem scanItems_of_scanProjection {rest after : List Lexeme} {items : List Item}
    (h : scanProjection rest = some (.items items, after)) :
    ∃ after', scanItems rest = some (items, after') := by
  rw [scanProjection_eq] at h
  split at h
  · simp at h
  · obtain ⟨⟨listed, after'⟩, hscan, he⟩ := Option.map_eq_some_iff.1 h
    cases he
    exact ⟨after', hscan⟩

/-- All variables are returned by both or by none. -/
theorem eq_all_iff {rest rest' after after' : List Lexeme} {p p' : Projection}
    (hrest : Exchanged x y back rest rest') (h : scanProjection rest = some (p, after))
    (h' : scanProjection rest' = some (p', after')) : p = .all ↔ p' = .all := by
  rcases hrest with rfl | ⟨front, rfl, rfl⟩
  · rw [h] at h'
    cases h'
    rfl
  · have hstep := scanProjection_exchange hx hy front back
    rw [h, h'] at hstep
    cases hstep with
    | some hstep => exact hstep.1

/-- What is listed is the same if the place is outside of it. -/
theorem listed_eq_of_isOutside {rest rest' after after' : List Lexeme} {items items' : List Item}
    (hrest : Exchanged x y back rest rest') (hout : IsOutside x back rest)
    (h : scanProjection rest = some (.items items, after))
    (h' : scanProjection rest' = some (.items items', after')) : items = items' := by
  obtain ⟨left, hleft⟩ := scanItems_of_scanProjection h
  obtain ⟨left', hleft'⟩ := scanItems_of_scanProjection h'
  rcases hrest with rfl | ⟨front, rfl, rfl⟩
  · rw [hleft] at hleft'
    exact (Prod.mk.inj (Option.some.inj hleft')).1
  · have hstep := scanItems_inStep hx hy front back
    rw [hleft, hleft'] at hstep
    cases hstep with
    | some hstep =>
      rcases hstep with ⟨-, hlength⟩ | ⟨hitems, -⟩
      -- The place has been passed, so it is not outside.
      · rcases hout with hbefore | ⟨listed, after, hlisted, hafter⟩
        · have hle := hbefore.length_le
          rw [List.length_append, List.length_cons] at hle
          omega
        · rw [hleft] at hlisted
          cases hlisted
          exact absurd (hafter.length_le.trans hlength) (by simp)
      · exact hitems

omit hx hy in
/-- An earlier projection for items changes nothing. -/
theorem lastColumns_cons (items : List Item) (p : Projection) (ps : List Projection) :
    lastColumns (.items items :: p :: ps) = lastColumns (p :: ps) := by
  have hreturns : lastColumns (p :: ps) ≠ .error .noReturn := by
    cases p with
    | all => simp [lastColumns]
    | items others =>
      rw [lastColumns]
      split
      · simp
      · next hne => exact hne
  rw [lastColumns]
  split
  · next hnone => exact absurd hnone hreturns
  · rfl

/-- **The columns are the same** if the place is outside of what the last word
that returns lists. -/
theorem lastColumns_exchange {rests rests' : List (List Lexeme)} {found found' : List Projection}
    {columns : List String} (hrests : List.Forall₂ (Exchanged x y back) rests rests')
    (h : rests.map (fun rest => (scanProjection rest).map Prod.fst) = found.map some)
    (h' : rests'.map (fun rest => (scanProjection rest).map Prod.fst) = found'.map some)
    (hout : ∀ rest ∈ rests.getLast?, IsOutside x back rest)
    (hcolumns : lastColumns found = .ok columns) : lastColumns found' = .ok columns := by
  induction hrests generalizing found found' with
  | nil =>
    obtain rfl : found = [] := by simpa using h.symm
    simp [lastColumns] at hcolumns
  | @cons rest rest' rests rests' hrest hrests ih =>
    cases found with
    | nil => simp at h
    | cons p ps =>
      cases found' with
      | nil => simp at h'
      | cons p' ps' =>
        rw [List.map_cons, List.map_cons, List.cons.injEq, Option.map_eq_some_iff] at h h'
        obtain ⟨⟨⟨p, after⟩, hscan, rfl⟩, hps⟩ := h
        obtain ⟨⟨⟨p', after'⟩, hscan', rfl⟩, hps'⟩ := h'
        have hall := eq_all_iff hx hy back hrest hscan hscan'
        cases p with
        | all => simp [lastColumns] at hcolumns
        | items items =>
          cases p' with
          | all => simp at hall
          | items items' =>
            cases hrests with
            | nil =>
              obtain rfl : ps = [] := by simpa using hps.symm
              obtain rfl : ps' = [] := by simpa using hps'.symm
              have hitems : items = items' :=
                listed_eq_of_isOutside hx hy back hrest (hout rest rfl) hscan hscan'
              rwa [← hitems]
            | cons hnext hmore =>
              -- Another projection follows, which decides.
              cases ps with
              | nil => simp at hps
              | cons q qs =>
                cases ps' with
                | nil => simp at hps'
                | cons q' qs' =>
                  rw [lastColumns_cons] at hcolumns ⊢
                  exact ih hps hps' (fun r hr => hout r (by simpa using hr)) hcolumns

/-- **A statement has the same columns** when another group takes the place of
one outside of what the last word that returns lists. -/
theorem columns_exchange {columns : List String}
    (hout : ∃ rest, (returnsOf (front ++ x :: back)).getLast? = some rest ∧ IsOutside x back rest)
    (h : (projections (front ++ x :: back)).map lastColumns = some (.ok columns)) :
    (projections (front ++ y :: back)).map lastColumns = some (.ok columns) := by
  obtain ⟨rest, hrest, hout⟩ := hout
  obtain ⟨found, hfound, hcolumns⟩ := Option.map_eq_some_iff.1 h
  obtain ⟨found', hfound', hrests⟩ := projections_exchange hx hy front back hfound
  have hlast : ∀ r ∈ (returnsOf (front ++ x :: back)).getLast?, IsOutside x back r := by
    rw [hrest]
    rintro r ⟨⟩
    exact hout
  rw [hfound', Option.map_some, lastColumns_exchange hx hy back hrests (map_returnsOf hfound)
    (map_returnsOf hfound') hlast hcolumns]

end EntityGraph.Cypher
