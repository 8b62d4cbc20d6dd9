import EntityGraph.Proofs.Cypher.Tokens
/-!
# Tokens that are read

Whatever is scanned, what is read off it is of its kind: names consist of
characters of names, texts have both their quotes, and what a group encloses is
balanced. For groups this turns the walk with its stack of brackets back into
the grammar: the rest of a group from some place on is what closes the brackets
that are open there (`Finishes`), whatever step was taken to that place. Kinds
and stopping places say exactly what scanning gives (`scanToken_eq_some_iff`).
-/

namespace EntityGraph.Cypher

open Text

/-! ### Names -/

theorem stopsBefore_dropWhile (p : Char → Bool) (cs : List Char) :
    StopsBefore p (cs.dropWhile p) := by
  intro c hc
  have hnot := List.head?_dropWhile_not p cs
  rw [hc] at hnot
  simpa using hnot

theorem stopsBefore_of_scanEscaped {cs content rest : List Char}
    (h : scanEscaped cs = some (content, rest)) : StopsBefore (· == accent) rest := by
  fun_induction scanEscaped cs generalizing content rest with
  | case1 => simp at h
  | case2 =>
    cases h
    exact stopsBefore_nil _
  | case3 ds ih =>
    obtain ⟨⟨inner, tail⟩, hi, he⟩ := Option.map_eq_some_iff.1 h
    cases he
    exact ih hi
  | case4 d ds hd =>
    cases h
    simpa using hd
  | case5 c cs _ ih =>
    obtain ⟨⟨inner, tail⟩, hi, he⟩ := Option.map_eq_some_iff.1 h
    cases he
    exact ih hi

/-- A name that is read is a name, and stops where it is left off. -/
theorem isWellFormed_of_scanName {cs rest : List Char} {name : Name}
    (h : scanName cs = some (name, rest)) : name.IsWellFormed ∧ name.EndsBefore rest := by
  unfold scanName at h
  split at h
  · simp at h
  · next c cs =>
    split at h
    · next hc =>
      cases h
      refine ⟨?_, stopsBefore_dropWhile isNameChar cs⟩
      have hall : (cs.takeWhile isNameChar).all isNameChar = true := List.all_takeWhile
      simp [Name.IsWellFormed, isNameChars, hc, hall]
    · split at h
      · obtain ⟨⟨inner, tail⟩, hi, he⟩ := Option.map_eq_some_iff.1 h
        cases he
        exact ⟨trivial, stopsBefore_of_scanEscaped hi⟩
      · simp at h

/-! ### Texts -/

theorem isLiteralBody_of_scanLiteral {quote : Char} {cs text rest : List Char}
    (h : scanLiteral quote cs = some (text, rest)) :
    ∃ body, IsLiteralBody quote body ∧ text = body ++ [quote] := by
  fun_induction scanLiteral quote cs generalizing text rest with
  | case1 => simp at h
  | case2 => simp at h
  | case3 d ds ih =>
    obtain ⟨⟨inner, tail⟩, hi, he⟩ := Option.map_eq_some_iff.1 h
    cases he
    obtain ⟨body, hbody, rfl⟩ := ih hi
    exact ⟨'\\' :: d :: body, .escape d hbody, rfl⟩
  | case4 cs _ =>
    cases h
    exact ⟨[], .nil, rfl⟩
  | case5 c cs hslash hquote ih =>
    obtain ⟨⟨inner, tail⟩, hi, he⟩ := Option.map_eq_some_iff.1 h
    cases he
    obtain ⟨body, hbody, rfl⟩ := ih hi
    exact ⟨c :: body, .plain hslash hquote hbody, rfl⟩

/-! ### Groups -/

/-- **What closes some brackets,** innermost first: a balanced body before each
of them, and nothing after the last. -/
def Closes : List Char → List Char → Prop
  | [], cs => cs = []
  | closer :: closers, cs =>
    ∃ body rest, IsGroupBody body ∧ Closes closers rest ∧ cs = body ++ closer :: rest

/-- Balanced parts may come before what closes some brackets. -/
theorem Closes.prepend {closers body cs : List Char} (hopen : closers ≠ [])
    (hbody : IsGroupBody body) (h : Closes closers cs) : Closes closers (body ++ cs) := by
  cases closers with
  | nil => exact absurd rfl hopen
  | cons closer closers =>
    obtain ⟨inner, rest, hinner, hrest, rfl⟩ := h
    exact ⟨body ++ inner, rest, hbody.append hinner, hrest, by rw [List.append_assoc]⟩

/-- What finishes a group from inside of something: it is closed first. -/
def Finishes (closers : List Char) : Inside → List Char → Prop
  | .code, cs => Closes closers cs
  | .text quote, cs =>
    ∃ body rest, IsLiteralBody quote body ∧ Closes closers rest ∧ cs = body ++ quote :: rest
  | .afterBackslash quote, cs =>
    ∃ c body rest, IsLiteralBody quote body ∧ Closes closers rest ∧
      cs = c :: (body ++ quote :: rest)
  | .name, cs =>
    ∃ content rest, Closes closers rest ∧ cs = Name.doubled content ++ accent :: rest
  | .afterAccent, cs =>
    Closes closers cs ∨ ∃ content rest, Closes closers rest ∧
      cs = accent :: (Name.doubled content ++ accent :: rest)

/-- One character of code goes before what finishes the group after it. -/
theorem closes_cons {closers cs : List Char} {q : Place} {c : Char} (hopen : closers ≠ [])
    (hstep : Place.stepCode closers c = some q) (h : Finishes q.closers q.inside cs) :
    Closes closers (c :: cs) := by
  unfold Place.stepCode at hstep
  split at hstep
  · next hquote =>
    cases hstep
    obtain ⟨body, rest, hbody, hrest, rfl⟩ := h
    have htext : IsGroupBody ((c :: (body ++ [c])) ++ []) :=
      .literal ⟨c, body, hquote, hbody, rfl⟩ .nil
    simpa using hrest.prepend hopen htext
  · next hquote =>
    split at hstep
    · next haccent =>
      cases hstep
      obtain ⟨content, rest, hrest, rfl⟩ := h
      have hname : IsGroupBody ((Name.escaped content).chars ++ []) := .escaped content .nil
      simpa [Name.chars, haccent] using hrest.prepend hopen hname
    · next haccent =>
      split at hstep
      · next hcloser =>
        cases closers with
        | nil => exact absurd rfl hopen
        | cons closer outer =>
          simp only at hstep
          split at hstep
          · next heq =>
            cases hstep
            exact ⟨[], cs, .nil, h, by rw [heq]; rfl⟩
          · simp at hstep
      · next hcloser =>
        cases hpair : closer? c with
        | some closer =>
          rw [hpair] at hstep
          cases hstep
          obtain ⟨body, rest, hbody, hrest, rfl⟩ := h
          have hgroup : IsGroupBody (c :: (body ++ closer :: [])) := .group hpair hbody .nil
          simpa using hrest.prepend hopen hgroup
        | none =>
          rw [hpair] at hstep
          cases hstep
          have hc : isGroupChar c = true := by simp [isGroupChar, hpair, hquote, haccent, hcloser]
          have hplain : IsGroupBody [c] := .plain hc .nil
          exact Closes.prepend hopen hplain h

/-- **Each step is one of the grammar:** its character goes before what finishes
the group after it. -/
theorem finishes_cons {p q : Place} {c : Char} {cs : List Char} (hopen : p.closers ≠ [])
    (hstep : p.step c = some q) (h : Finishes q.closers q.inside cs) :
    Finishes p.closers p.inside (c :: cs) := by
  obtain ⟨closers, inside⟩ := p
  cases inside with
  | code => exact closes_cons hopen hstep h
  | text quote =>
    simp only [Place.step, Option.some.injEq] at hstep
    subst hstep
    by_cases hslash : c = '\\'
    · simp only [hslash, ↓reduceIte] at h
      obtain ⟨d, body, rest, hbody, hrest, rfl⟩ := h
      exact ⟨'\\' :: d :: body, rest, .escape d hbody, hrest, by rw [hslash]; rfl⟩
    · by_cases hquote : c = quote
      · subst hquote
        simp only [hslash, ↓reduceIte] at h
        exact ⟨[], cs, .nil, h, rfl⟩
      · simp only [hslash, hquote, ↓reduceIte] at h
        obtain ⟨body, rest, hbody, hrest, rfl⟩ := h
        exact ⟨c :: body, rest, .plain hslash hquote hbody, hrest, rfl⟩
  | afterBackslash quote =>
    simp only [Place.step, Option.some.injEq] at hstep
    subst hstep
    obtain ⟨body, rest, hbody, hrest, rfl⟩ := h
    exact ⟨c, body, rest, hbody, hrest, rfl⟩
  | name =>
    simp only [Place.step, Option.some.injEq] at hstep
    subst hstep
    by_cases haccent : c = accent
    · simp only [haccent, ↓reduceIte] at h
      rcases h with hcloses | ⟨content, rest, hrest, rfl⟩
      · exact ⟨[], cs, hcloses, by rw [haccent]; rfl⟩
      · exact ⟨accent :: content, rest, hrest, by simp [Name.doubled, haccent]⟩
    · simp only [haccent, ↓reduceIte] at h
      obtain ⟨content, rest, hrest, rfl⟩ := h
      exact ⟨c :: content, rest, hrest, by simp [Name.doubled, haccent]⟩
  | afterAccent =>
    by_cases haccent : c = accent
    · simp only [Place.step, haccent, ↓reduceIte, Option.some.injEq] at hstep
      subst hstep
      obtain ⟨content, rest, hrest, rfl⟩ := h
      exact .inr ⟨content, rest, hrest, by rw [haccent]⟩
    · simp only [Place.step, haccent, ↓reduceIte] at hstep
      exact .inl (closes_cons hopen hstep h)

/-- The last bracket is closed outside of texts and names. -/
theorem inside_of_closers_eq_nil {p q : Place} {c : Char} (hopen : p.closers ≠ [])
    (hstep : p.step c = some q) (hq : q.closers = []) : q.inside = .code := by
  have hcode (h : Place.stepCode p.closers c = some q) : q.inside = .code := by
    unfold Place.stepCode at h
    grind
  unfold Place.step at hstep
  grind

/-- The rest of a group finishes it. -/
theorem finishes_of_scanGroup {p : Place} {cs inner rest : List Char} (hopen : p.closers ≠ [])
    (h : scanGroup p cs = some (inner, rest)) : Finishes p.closers p.inside inner := by
  fun_induction scanGroup p cs generalizing inner rest with
  | case1 => simp at h
  | case2 => simp at h
  | case3 p c cs next hstep hempty =>
    cases h
    have hclosers : next.closers = [] := by simpa using hempty
    have hcode := inside_of_closers_eq_nil hopen hstep hclosers
    refine finishes_cons hopen hstep ?_
    rw [hcode, hclosers]
    rfl
  | case4 p c cs next hstep hnext ih =>
    obtain ⟨⟨inner, tail⟩, hi, he⟩ := Option.map_eq_some_iff.1 h
    cases he
    exact finishes_cons hopen hstep (ih (by simpa using hnext) hi)

/-- **What is read as a group is balanced** up to the bracket that closes it. -/
theorem isGroupBody_of_scanGroup {closer : Char} {cs inner rest : List Char}
    (h : scanGroup ⟨[closer], .code⟩ cs = some (inner, rest)) :
    ∃ body, IsGroupBody body ∧ inner = body ++ [closer] := by
  obtain ⟨body, after, hbody, rfl, rfl⟩ := finishes_of_scanGroup (by simp) h
  exact ⟨body, hbody, rfl⟩

/-- So balance can be decided by scanning. -/
theorem isGroupBody_iff_scanGroup {cs : List Char} : IsGroupBody cs ↔
    scanGroup ⟨[')'], .code⟩ (cs ++ [')']) = some (cs ++ [')'], []) := by
  have hpair : closer? '(' = some ')' := rfl
  constructor
  · exact fun h => scanGroup_body hpair h
  · intro h
    obtain ⟨body, hbody, heq⟩ := isGroupBody_of_scanGroup h
    rwa [List.append_cancel_right heq]

instance (cs : List Char) : Decidable (IsGroupBody cs) :=
  decidable_of_iff _ isGroupBody_iff_scanGroup.symm

/-! ### Numbers -/

theorem isDigits_scanDigits {cs : List Char} (h : (scanDigits cs).1 ≠ []) :
    IsDigits (scanDigits cs).1 :=
  ⟨h, fun _ hc => List.all_eq_true.1 List.all_takeWhile _ hc⟩

theorem isFraction_scanFraction (cs : List Char) : IsFraction (scanFraction cs).1 := by
  cases cs with
  | nil => exact .inl rfl
  | cons c cs =>
    simp only [scanFraction]
    split
    · next h =>
      obtain ⟨hpoint, hne⟩ : c = '.' ∧ (scanDigits cs).1 ≠ [] := by simpa using h
      exact .inr ⟨_, isDigits_scanDigits hne, by rw [hpoint]⟩
    · exact .inl rfl

theorem scanSign_cases (cs : List Char) :
    (scanSign cs).1 = [] ∨ (scanSign cs).1 = ['+'] ∨ (scanSign cs).1 = ['-'] := by
  cases cs with
  | nil => exact .inl rfl
  | cons c cs =>
    simp only [scanSign]
    split
    · next h =>
      have hsign : c = '+' ∨ c = '-' := by simpa using h
      exact .inr (hsign.imp (congrArg ([·])) (congrArg ([·])))
    · exact .inl rfl

theorem isExponent_scanExponent (cs : List Char) : IsExponent (scanExponent cs).1 := by
  cases cs with
  | nil => exact .inl rfl
  | cons c cs =>
    simp only [scanExponent]
    split
    · next h =>
      obtain ⟨hletter, hne⟩ : (c = 'e' ∨ c = 'E') ∧ (scanDigits (scanSign cs).2).1 ≠ [] := by
        simpa using h
      exact .inr ⟨c, _, _, hletter, scanSign_cases cs, isDigits_scanDigits hne, rfl⟩
    · exact .inl rfl

/-- What is read where a digit stands is a number. -/
theorem isNumeral_scanNumber {c : Char} {cs : List Char} (hc : c.isDigit = true) :
    IsNumeral (scanNumber (c :: cs)).1 := by
  have hwhole : IsDigits (scanDigits (c :: cs)).1 := isDigits_scanDigits (by simp [scanDigits, hc])
  exact ⟨_, _, _, hwhole, isFraction_scanFraction _, isExponent_scanExponent _, rfl⟩

/-! ### Tokens -/

theorem isWellFormed_of_scanParameter {cs rest : List Char} {t : Token}
    (h : scanParameter cs = some (t, rest)) : t.IsWellFormed ∧ t.StopsAt rest := by
  unfold scanParameter at h
  split at h
  · next hname =>
    cases h
    exact isWellFormed_of_scanName hname
  · simp only at h
    split at h
    · simp at h
    · next hne =>
      cases h
      exact ⟨isDigits_scanDigits (by simpa using hne), stopsBefore_dropWhile _ cs⟩

theorem isWellFormed_of_scanSymbol {c : Char} {cs rest : List Char} {t : Token}
    (hpoint : c = '.' → scanName cs = none) (h : scanSymbol c cs = some (t, rest)) :
    t.IsWellFormed ∧ t.StopsAt rest := by
  unfold scanSymbol at h
  split at h
  · cases h
    exact ⟨trivial, trivial⟩
  · split at h
    · cases h
      exact ⟨trivial, trivial⟩
    · split at h
      · next hoperator =>
        cases h
        exact ⟨hoperator, hpoint⟩
      · simp at h

/-- **A token that is read is of its kind,** and stops where it is left off. -/
theorem isWellFormed_of_scanToken {cs rest : List Char} {t : Token}
    (h : scanToken cs = some (t, rest)) : t.IsWellFormed ∧ t.StopsAt rest := by
  unfold scanToken at h
  split at h
  · simp at h
  · next c cs =>
    split at h
    · obtain ⟨⟨name, tail⟩, hi, he⟩ := Option.map_eq_some_iff.1 h
      cases he
      exact isWellFormed_of_scanName hi
    · split at h
      · next hdigit =>
        cases h
        exact ⟨isNumeral_scanNumber hdigit, congrArg scanNumber (scanNumber_append (c :: cs))⟩
      · split at h
        · next hquote =>
          obtain ⟨⟨text, tail⟩, hi, he⟩ := Option.map_eq_some_iff.1 h
          cases he
          obtain ⟨body, hbody, rfl⟩ := isLiteralBody_of_scanLiteral hi
          exact ⟨⟨c, body, hquote, hbody, rfl⟩, trivial⟩
        · split at h
          · exact isWellFormed_of_scanParameter h
          · split at h
            · next closer hpair =>
              obtain ⟨⟨inner, tail⟩, hi, he⟩ := Option.map_eq_some_iff.1 h
              cases he
              obtain ⟨body, hbody, rfl⟩ := isGroupBody_of_scanGroup hi
              exact ⟨⟨c, closer, body, hpair, hbody, rfl⟩, trivial⟩
            · split at h
              · next hname =>
                cases h
                split at hname
                · exact isWellFormed_of_scanName hname
                · simp at hname
              · next hnone =>
                exact isWellFormed_of_scanSymbol (fun hpoint => by simpa [hpoint] using hnone) h

/-- **What scanning gives,** said without scanning: a token of its kind that
stands at the front and stops at what follows it. -/
theorem scanToken_eq_some_iff {cs rest : List Char} {t : Token} :
    scanToken cs = some (t, rest) ↔
      t.IsWellFormed ∧ t.StopsAt rest ∧ cs = t.chars ++ rest := by
  constructor
  · intro h
    obtain ⟨htoken, hstops⟩ := isWellFormed_of_scanToken h
    exact ⟨htoken, hstops, eq_of_scanToken h⟩
  · rintro ⟨htoken, hstops, rfl⟩
    exact scanToken_of_stopsAt htoken hstops

end EntityGraph.Cypher
