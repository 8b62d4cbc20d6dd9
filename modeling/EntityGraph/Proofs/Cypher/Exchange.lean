import EntityGraph.Proofs.Cypher.Lexemes
import EntityGraph.Proofs.Cypher.Reading
import Mathlib.Data.List.Infix
/-!
# Exchanging what a group encloses

What is read in front of an opening bracket does not depend on what comes after
the bracket, with one exception: a stroke and a star that are read as operators,
because nothing closes the comment they would start, start one when something
comes to close it. So of a statement that leaves no such comment open in front
of one of its groups, the lexemes stay the same when another group takes the
place of this one (`lexemes_exchange`).
-/

namespace EntityGraph.Cypher

open Text

/-! ### In front of a bracket -/

/-- What stops before a text with a bracket in it stops whatever comes after the
bracket. -/
theorem StopsBefore.exchange {p : Char → Bool} {opener : Char} {us cs : List Char}
    (ds : List Char) (h : StopsBefore p (us ++ opener :: cs)) :
    StopsBefore p (us ++ opener :: ds) := by
  cases us with
  | nil => exact h
  | cons u us => exact h

variable {opener closer : Char} (hpair : closer? opener = some closer)
include hpair

theorem scanDigits_append_opener (us cs : List Char) : scanDigits (us ++ opener :: cs) =
    ((scanDigits us).1, (scanDigits us).2 ++ opener :: cs) := by
  have hdigit : opener.isDigit = false := by
    rcases opener_cases hpair with rfl | rfl | rfl <;> decide
  induction us with
  | nil => simp [scanDigits, hdigit]
  | cons u us ih =>
    simp only [scanDigits, Prod.mk.injEq] at ih
    cases hu : u.isDigit <;> simp [scanDigits, hu, ih]

theorem scanFraction_append_opener (us cs : List Char) : scanFraction (us ++ opener :: cs) =
    ((scanFraction us).1, (scanFraction us).2 ++ opener :: cs) := by
  cases us with
  | nil =>
    have hpoint : opener ≠ '.' := by
      rcases opener_cases hpair with rfl | rfl | rfl <;> decide
    simp [scanFraction, hpoint]
  | cons u us =>
    simp only [List.cons_append, scanFraction, scanDigits_append_opener hpair]
    split <;> rfl

theorem scanSign_append_opener (us cs : List Char) : scanSign (us ++ opener :: cs) =
    ((scanSign us).1, (scanSign us).2 ++ opener :: cs) := by
  cases us with
  | nil =>
    have hsign : (opener = '+' || opener = '-') = false := by
      rcases opener_cases hpair with rfl | rfl | rfl <;> decide
    simp [scanSign, hsign]
  | cons u us =>
    simp only [List.cons_append, scanSign]
    split <;> rfl

theorem scanExponent_append_opener (us cs : List Char) : scanExponent (us ++ opener :: cs) =
    ((scanExponent us).1, (scanExponent us).2 ++ opener :: cs) := by
  cases us with
  | nil =>
    have hletter : (opener = 'e' || opener = 'E') = false := by
      rcases opener_cases hpair with rfl | rfl | rfl <;> decide
    simp [scanExponent, hletter]
  | cons u us =>
    simp only [List.cons_append, scanExponent, scanSign_append_opener hpair,
      scanDigits_append_opener hpair]
    split <;> rfl

/-- A number is read without a look at what comes after a bracket. -/
theorem scanNumber_append_opener (us cs : List Char) : scanNumber (us ++ opener :: cs) =
    ((scanNumber us).1, (scanNumber us).2 ++ opener :: cs) := by
  simp [scanNumber, scanDigits_append_opener hpair, scanFraction_append_opener hpair,
    scanExponent_append_opener hpair]

/-- **A token in front of a bracket** stops where it does whatever comes after
the bracket. Only of a point it has to be known that no name follows it. -/
theorem Token.StopsAt.exchange {t : Token} {us cs : List Char} (ds : List Char)
    (h : t.StopsAt (us ++ opener :: cs))
    (hpoint : t = .operator '.' →
      StopsBefore (fun c => isNameStart c || c == accent) (us ++ opener :: cs)) :
    t.StopsAt (us ++ opener :: ds) := by
  have hname {n : Name} (hn : n.EndsBefore (us ++ opener :: cs)) :
      n.EndsBefore (us ++ opener :: ds) := by
    cases n with
    | plain content => exact StopsBefore.exchange ds hn
    | escaped content => exact StopsBefore.exchange ds hn
  cases t with
  | name n | lookup n | parameter n => exact hname h
  | positional digits => exact StopsBefore.exchange ds h
  | number digits =>
    have hscan : scanNumber (digits ++ (us ++ opener :: cs)) = (digits, us ++ opener :: cs) := h
    rw [← List.append_assoc, scanNumber_append_opener hpair, Prod.mk.injEq] at hscan
    have hrest := List.append_cancel_right hscan.2
    show scanNumber (digits ++ (us ++ opener :: ds)) = (digits, us ++ opener :: ds)
    rw [← List.append_assoc, scanNumber_append_opener hpair, hscan.1, hrest]
  | operator symbol =>
    intro hsymbol
    exact scanName_eq_none (StopsBefore.exchange ds (hpoint (by rw [hsymbol])))
  | literal text | group text | comma | semicolon => trivial

/-! ### Gaps -/

omit hpair

/-- A comment that has started takes at least one more character. -/
theorem scanGapFrom_comment_length_le {p : GapPlace} (hp : p ≠ .blank) (c : Char)
    (cs : List Char) : (scanGapFrom p (c :: cs)).2.length ≤ cs.length := by
  have hlength (q : GapPlace) (ds : List Char) : (scanGapFrom q ds).2.length ≤ ds.length := by
    have happend := congrArg List.length (scanGapFrom_append q ds)
    rw [List.length_append] at happend
    omega
  cases p with
  | blank => exact absurd rfl hp
  | line => exact hlength _ cs
  | block =>
    cases cs with
    | nil => simp [scanGapFrom]
    | cons d cs =>
      rw [scanGapFrom]
      split
      · exact (hlength .blank cs).trans (by simp)
      · exact hlength .block (d :: cs)

theorem closesBlock_cons_cons (c d : Char) (cs : List Char) : closesBlock (c :: d :: cs) =
    ((c = '*' && d = '/') || closesBlock (d :: cs)) := by
  rw [closesBlock]

theorem closesBlock_append {us : List Char} (h : closesBlock us = true) (cs : List Char) :
    closesBlock (us ++ cs) = true := by
  induction us with
  | nil => simp [closesBlock] at h
  | cons u us ih =>
    cases us with
    | nil => simp [closesBlock] at h
    | cons v us =>
      rw [closesBlock_cons_cons, Bool.or_eq_true] at h
      rw [List.cons_append, List.cons_append, closesBlock_cons_cons, Bool.or_eq_true]
      exact h.imp id ih

/-- A comment is not over at a bracket that comes after it has started. -/
theorem scanGapFrom_opener_ne {p : GapPlace} (hp : p ≠ .blank) (cs rest : List Char) :
    (scanGapFrom p (opener :: cs)).2 ≠ rest ++ opener :: cs := by
  intro h
  have hle := scanGapFrom_comment_length_le hp opener cs
  rw [h, List.length_append, List.length_cons] at hle
  omega

include hpair

theorem scanGapFrom_block_opener (u : Char) (cs : List Char) :
    (scanGapFrom .block (u :: opener :: cs)).2 = (scanGapFrom .block (opener :: cs)).2 := by
  have hstroke : opener ≠ '/' := by
    rcases opener_cases hpair with rfl | rfl | rfl <;> decide
  rw [scanGapFrom, if_neg (by simp [hstroke])]

/-- No gap starts with a bracket. -/
theorem scanGap_opener (cs : List Char) : scanGap (opener :: cs) = ([], opener :: cs) := by
  have hstart : isGapChar opener = false ∧ opener ≠ '/' := by
    rcases opener_cases hpair with rfl | rfl | rfl <;> decide
  cases cs <;> simp [scanGap, scanGapFrom, hstart]

theorem scanGapFrom_blank_opener (cs : List Char) :
    (scanGapFrom .blank (opener :: cs)).2 = opener :: cs :=
  congrArg Prod.snd (scanGap_opener hpair cs)

theorem scanGapFrom_blank_stop {c : Char} (hc : ¬ isGapChar c = true) (cs : List Char) :
    (scanGapFrom .blank (c :: opener :: cs)).2 = c :: opener :: cs := by
  have hstart : opener ≠ '/' ∧ opener ≠ '*' := by
    rcases opener_cases hpair with rfl | rfl | rfl <;> decide
  simp [scanGapFrom, hc, hstart]

/-- A block comment that is over in front of a bracket is closed there. -/
theorem closesBlock_of_scanGapFrom {us cs rest : List Char}
    (h : (scanGapFrom .block (us ++ opener :: cs)).2 = rest ++ opener :: cs) :
    closesBlock us = true := by
  induction us with
  | nil => exact absurd h (scanGapFrom_opener_ne (by decide) cs rest)
  | cons u us ih =>
    cases us with
    | nil =>
      rw [List.singleton_append, scanGapFrom_block_opener hpair] at h
      exact absurd h (scanGapFrom_opener_ne (by decide) cs rest)
    | cons v us =>
      rw [closesBlock_cons_cons, Bool.or_eq_true]
      rw [List.cons_append, List.cons_append, scanGapFrom] at h
      split at h
      · next hclose => exact .inl hclose
      · exact .inr (ih h)

/-- **A gap in front of a bracket** ends where it does whatever comes after the
bracket, unless it ends at a comment that nothing closes. -/
theorem scanGapFrom_exchange {p : GapPlace} {us cs rest : List Char} (ds : List Char)
    (hsettled : ¬ ['/', '*'] <+: rest)
    (h : (scanGapFrom p (us ++ opener :: cs)).2 = rest ++ opener :: cs) :
    (scanGapFrom p (us ++ opener :: ds)).2 = rest ++ opener :: ds := by
  fun_induction scanGapFrom p us with
  | case1 p =>
    by_cases hp : p = .blank
    · subst hp
      rw [List.nil_append, scanGapFrom_blank_opener hpair] at h ⊢
      have hnil : rest = [] := List.self_eq_append_left.1 h
      rw [hnil]
      rfl
    · exact absurd h (scanGapFrom_opener_ne hp cs rest)
  | case2 c us _ _ _ ih => exact ih h
  | case3 c =>
    rw [List.singleton_append, scanGapFrom_block_opener hpair] at h
    exact absurd h (scanGapFrom_opener_ne (by decide) cs rest)
  | case4 c d us hclose _ _ _ ih =>
    rw [List.cons_append, List.cons_append, scanGapFrom, if_pos hclose] at h ⊢
    exact ih h
  | case5 c d us hclose _ _ _ ih =>
    rw [List.cons_append, List.cons_append, scanGapFrom, if_neg hclose] at h ⊢
    exact ih h
  | case6 c hc =>
    rw [List.singleton_append, scanGapFrom, if_pos hc] at h ⊢
    rw [scanGapFrom_blank_opener hpair] at h ⊢
    have hnil : rest = [] := List.self_eq_append_left.1 h
    rw [hnil]
    rfl
  | case7 c hc =>
    rw [List.singleton_append, scanGapFrom_blank_stop hpair hc] at h ⊢
    have hrest : [c] = rest := List.append_cancel_right h
    rw [← hrest]
    rfl
  | case8 c d us hc _ _ _ ih =>
    rw [List.cons_append, List.cons_append, scanGapFrom, if_pos hc] at h ⊢
    exact ih h
  | case9 c d us hc hline _ _ _ ih =>
    rw [List.cons_append, List.cons_append, scanGapFrom, if_neg hc, if_pos hline] at h ⊢
    exact ih h
  | case10 c d us hc hline hblock _ _ _ ih =>
    have hcloses (es : List Char) :
        (c = '/' && d = '*' && closesBlock (us ++ opener :: es)) = true := by
      rw [Bool.and_eq_true] at hblock ⊢
      exact ⟨hblock.1, closesBlock_append hblock.2 _⟩
    rw [List.cons_append, List.cons_append, scanGapFrom, if_neg hc, if_neg hline,
      if_pos (hcloses _)] at h ⊢
    exact ih h
  | case11 c d us hc hline hblock =>
    rw [List.cons_append, List.cons_append, scanGapFrom, if_neg hc, if_neg hline] at h ⊢
    by_cases hopens : (c = '/' && d = '*') = true
    · rw [hopens, Bool.true_and] at h hblock
      split at h
      · exact absurd (closesBlock_of_scanGapFrom hpair h) hblock
      -- What follows the gap starts like a comment.
      · have hrest : c :: d :: us = rest := List.append_cancel_right h
        obtain ⟨rfl, rfl⟩ : c = '/' ∧ d = '*' := by simpa using hopens
        exact absurd (hrest ▸ ⟨us, rfl⟩) hsettled
    · rw [Bool.not_eq_true] at hopens
      rw [hopens, Bool.false_and, if_neg Bool.false_ne_true] at h ⊢
      have hrest : c :: d :: us = rest := List.append_cancel_right h
      rw [← hrest]
      rfl

/-- A gap and what it leaves over. -/
theorem scanGap_exchange {gap rest cs : List Char} (ds : List Char)
    (hsettled : ¬ ['/', '*'] <+: rest)
    (h : scanGap (gap ++ (rest ++ opener :: cs)) = (gap, rest ++ opener :: cs)) :
    scanGap (gap ++ (rest ++ opener :: ds)) = (gap, rest ++ opener :: ds) := by
  have hrest : (scanGap (gap ++ (rest ++ opener :: ds))).2 = rest ++ opener :: ds := by
    rw [← List.append_assoc] at h ⊢
    exact scanGapFrom_exchange hpair ds hsettled (congrArg Prod.snd h)
  have happend := scanGap_append (gap ++ (rest ++ opener :: ds))
  rw [hrest] at happend
  exact Prod.ext (List.append_cancel_right happend) hrest

/-! ### Lexemes -/

omit hpair

/-- **No comment is left open** by some lexemes: nowhere do they go on with a
stroke and a star. -/
def LeavesNoneOpen (xs : List Lexeme) : Prop :=
  ∀ ys, ys <:+ xs → ¬ ['/', '*'] <+: write ys

instance (xs : List Lexeme) : Decidable (LeavesNoneOpen xs) :=
  decidable_of_iff (∀ ys ∈ xs.tails, ¬ ['/', '*'] <+: write ys) (by simp [LeavesNoneOpen])

theorem LeavesNoneOpen.of_cons {x : Lexeme} {xs : List Lexeme} (h : LeavesNoneOpen (x :: xs)) :
    LeavesNoneOpen xs :=
  fun _ hys => h _ (hys.trans (List.suffix_cons x xs))

/-- Where lexemes go on a token stands. -/
theorem exists_scanToken_of_lexemesFrom {c : Char} {cs : List Char} {xs : List Lexeme}
    (h : lexemesFrom (c :: cs) = some xs) : ∃ t rest, scanToken (c :: cs) = some (t, rest) := by
  rw [lexemesFrom] at h
  split at h
  · next hempty => simp at hempty
  · split at h
    · simp at h
    · next t rest hscan => exact ⟨t, rest, hscan⟩

/-- So no accent stands there that starts no name. -/
theorem stopsBefore_of_lexemesFrom {cs : List Char} {xs : List Lexeme}
    (hnone : scanName cs = none) (h : lexemesFrom (scanGap cs).2 = some xs) :
    StopsBefore (fun c => isNameStart c || c == accent) cs := by
  cases cs with
  | nil => exact stopsBefore_nil _
  | cons c cs =>
    rw [stopsBefore_cons, Bool.or_eq_false_iff, beq_eq_false_iff_ne]
    constructor
    · rw [Bool.eq_false_iff]
      intro hc
      simp [scanName, hc] at hnone
    · rintro rfl
      have hgap : (scanGap (accent :: cs)).2 = accent :: cs := by
        cases cs <;> simp [scanGap, scanGapFrom, isGapChar, accent]
      rw [hgap] at h
      obtain ⟨t, rest, hscan⟩ := exists_scanToken_of_lexemesFrom h
      simp [scanToken, hnone] at hscan

theorem write_group (front back : List Lexeme) (text gap : List Char) :
    write (front ++ ⟨.group (opener :: text), gap⟩ :: back) =
      write front ++ opener :: (text ++ (gap ++ write back)) := by
  simp [Token.chars]

/-- **Another group may take the place** of one that is read, if no comment is
left open in front of it. -/
theorem lexemesFrom_exchange {front back : List Lexeme} {inner other gap : List Char}
    (hpair : closer? opener = some closer) (hother : IsGroup (opener :: other))
    (hsettled : LeavesNoneOpen front)
    (h : lexemesFrom (write (front ++ ⟨.group (opener :: inner), gap⟩ :: back)) =
      some (front ++ ⟨.group (opener :: inner), gap⟩ :: back)) :
    lexemesFrom (write (front ++ ⟨.group (opener :: other), gap⟩ :: back)) =
      some (front ++ ⟨.group (opener :: other), gap⟩ :: back) := by
  induction front with
  | nil =>
    obtain ⟨-, hgap, hback⟩ := lexemesFrom_write_cons_iff.1 h
    exact lexemesFrom_write_cons_iff.2 ⟨scanToken_group hother, hgap, hback⟩
  | cons x front ih =>
    rw [List.cons_append] at h ⊢
    obtain ⟨htoken, hgap, hrest⟩ := lexemesFrom_write_cons_iff.1 h
    have hread := ih hsettled.of_cons hrest
    obtain ⟨hwell, hstops⟩ := isWellFormed_of_scanToken htoken
    refine lexemesFrom_write_cons_iff.2 ⟨scanToken_of_stopsAt hwell ?_, ?_, hread⟩
    · have hpoint (hx : x.token = .operator '.') := by
        rw [hx] at hstops
        exact stopsBefore_of_lexemesFrom (hstops rfl) (by rw [hgap]; exact hrest)
      rw [write_group, ← List.append_assoc] at hstops hpoint ⊢
      exact hstops.exchange hpair _ hpoint
    · rw [write_group] at hgap ⊢
      exact scanGap_exchange hpair _ (hsettled front (List.suffix_cons x front)) hgap

/-- A statement divides into lexemes with a gap in front when both are read
back. -/
theorem lexemes_ofList_iff {lead : List Char} {xs : List Lexeme} :
    lexemes (String.ofList (lead ++ write xs)) = some xs ↔
      scanGap (lead ++ write xs) = (lead, write xs) ∧ lexemesFrom (write xs) = some xs := by
  rw [lexemes, String.toList_ofList]
  constructor
  · intro h
    have hwrite : (scanGap (lead ++ write xs)).2 = write xs := eq_of_lexemesFrom h
    have happend := scanGap_append (lead ++ write xs)
    rw [hwrite] at happend h
    exact ⟨Prod.ext (List.append_cancel_right happend) hwrite, h⟩
  · rintro ⟨hgap, hxs⟩
    rw [hgap]
    exact hxs

/-- **The lexemes stay the same** when another group with the same brackets takes
the place of one, if no comment is left open in front of it. -/
theorem lexemes_exchange {lead : List Char} {front back : List Lexeme}
    {inner other gap : List Char} (hpair : closer? opener = some closer)
    (hother : IsGroup (opener :: other)) (hsettled : LeavesNoneOpen front)
    (h : lexemes (String.ofList
        (lead ++ write (front ++ ⟨.group (opener :: inner), gap⟩ :: back))) =
      some (front ++ ⟨.group (opener :: inner), gap⟩ :: back)) :
    lexemes (String.ofList
        (lead ++ write (front ++ ⟨.group (opener :: other), gap⟩ :: back))) =
      some (front ++ ⟨.group (opener :: other), gap⟩ :: back) := by
  obtain ⟨hgap, hxs⟩ := lexemes_ofList_iff.1 h
  refine lexemes_ofList_iff.2 ⟨?_, lexemesFrom_exchange hpair hother hsettled hxs⟩
  rw [write_group] at hgap ⊢
  exact scanGap_exchange hpair _ (hsettled front List.suffix_rfl) hgap

end EntityGraph.Cypher
