import EntityGraph.Text.Blank
import Mathlib.Data.List.TakeWhile
/-!
# Visible characters

Where a run of characters of a class stops, and the characters of ASCII that
can be seen. None of these is white space, so a text of visible characters has
nothing to be taken off at its ends (`trimChars_visible`), and of a text that
starts and ends with one only the gap after it is taken off. Nothing is left of
a blank text (`isEmpty_trim`).
-/

namespace EntityGraph.Text

/-! ### Where a run of characters stops -/

/-- A text is empty or its first character is not of a class. -/
def StopsBefore (p : Char → Bool) (cs : List Char) : Prop :=
  ∀ c, cs.head? = some c → p c = false

@[simp] theorem stopsBefore_nil (p : Char → Bool) : StopsBefore p [] := by
  simp [StopsBefore]

@[simp] theorem stopsBefore_cons {p : Char → Bool} {c : Char} {cs : List Char} :
    StopsBefore p (c :: cs) ↔ p c = false := by
  simp [StopsBefore]

/-- A smaller class stops where a larger one does. -/
theorem StopsBefore.mono {p q : Char → Bool} {cs : List Char} (h : StopsBefore q cs)
    (hpq : ∀ c, p c = true → q c = true) : StopsBefore p cs := by
  intro c hc
  have hq := h c hc
  cases hp : p c with
  | false => rfl
  | true => rw [hpq c hp] at hq; exact hq

theorem takeWhile_append_stop {p : Char → Bool} {run rest : List Char}
    (hrun : ∀ c ∈ run, p c = true) (hrest : StopsBefore p rest) :
    (run ++ rest).takeWhile p = run := by
  rw [List.takeWhile_append_of_pos hrun]
  cases rest with
  | nil => simp
  | cons c cs => simp [stopsBefore_cons.1 hrest]

theorem dropWhile_append_stop {p : Char → Bool} {run rest : List Char}
    (hrun : ∀ c ∈ run, p c = true) (hrest : StopsBefore p rest) :
    (run ++ rest).dropWhile p = rest := by
  rw [List.dropWhile_append_of_pos hrun]
  cases rest with
  | nil => rfl
  | cons c cs => simp [stopsBefore_cons.1 hrest]

/-! ### Characters that can be seen -/

/-- A visible ASCII character. -/
def IsVisibleChar (c : Char) : Prop :=
  33 ≤ c.toNat ∧ c.toNat ≤ 126

instance (c : Char) : Decidable (IsVisibleChar c) := inferInstanceAs (Decidable (_ ∧ _))

theorem isDigit_iff_toNat {c : Char} : c.isDigit = true ↔ 48 ≤ c.toNat ∧ c.toNat ≤ 57 := by
  simp only [Char.isDigit, Bool.and_eq_true, decide_eq_true_eq, ge_iff_le, UInt32.le_iff_toNat_le]
  rfl

theorem isVisibleChar_of_isDigit {c : Char} (h : c.isDigit = true) : IsVisibleChar c := by
  have := isDigit_iff_toNat.1 h
  unfold IsVisibleChar
  omega

theorem isBlankChar_of_isVisibleChar {c : Char} (h : IsVisibleChar c) : isBlankChar c = false := by
  obtain ⟨hlow, hhigh⟩ := h
  have hne {d : Char} (hd : ¬ IsVisibleChar d) : (c == d) = false := by
    rw [beq_eq_false_iff_ne]
    rintro rfl
    exact hd ⟨hlow, hhigh⟩
  have hcontrol : ¬ c ≤ '\r' := by
    rw [Char.le_def, UInt32.le_iff_toNat_le]
    change ¬ c.toNat ≤ 13
    omega
  have hspace : ¬ '\u2000' ≤ c := by
    rw [Char.le_def, UInt32.le_iff_toNat_le]
    change ¬ 8192 ≤ c.toNat
    omega
  simp [isBlankChar, hcontrol, hspace, hne (d := ' ') (by decide), hne (d := '\u0085') (by decide),
    hne (d := '\u00a0') (by decide), hne (d := '\u1680') (by decide),
    hne (d := '\u2028') (by decide), hne (d := '\u2029') (by decide),
    hne (d := '\u202f') (by decide), hne (d := '\u205f') (by decide),
    hne (d := '\u3000') (by decide)]

/-! ### White space at the ends -/

/-- A run that starts and ends with characters other than white space is what
is left when white space comes after it. -/
theorem trimChars_append_gap {c d : Char} {cs init gap : List Char} (hfirst : cs = c :: cs.tail)
    (hlast : cs = init ++ [d]) (hc : isBlankChar c = false) (hd : isBlankChar d = false)
    (hgap : ∀ b ∈ gap, isBlankChar b = true) : trimChars (cs ++ gap) = cs := by
  have hfront : dropBlanks (cs ++ gap) = cs ++ gap := by
    rw [hfirst, List.cons_append, dropBlanks, List.dropWhile_cons, hc]
    rfl
  have hback : dropBlanks (cs ++ gap).reverse = cs.reverse := by
    rw [List.reverse_append, dropBlanks,
      List.dropWhile_append_of_pos fun b hb => hgap b (List.mem_reverse.1 hb), hlast,
      List.reverse_append, List.reverse_singleton, List.singleton_append, List.dropWhile_cons, hd]
    rfl
  rw [trimChars, hfront, hback, List.reverse_reverse]

theorem dropBlanks_visible {cs : List Char} (h : ∀ c ∈ cs, IsVisibleChar c) :
    dropBlanks cs = cs := by
  cases cs with
  | nil => rfl
  | cons c cs =>
    rw [dropBlanks, List.dropWhile_cons, isBlankChar_of_isVisibleChar (h c List.mem_cons_self)]
    rfl

/-- Nothing is taken off a text of visible characters. -/
theorem trimChars_visible {cs : List Char} (h : ∀ c ∈ cs, IsVisibleChar c) : trimChars cs = cs := by
  have hreverse : ∀ c ∈ cs.reverse, IsVisibleChar c := fun c hc => h c (List.mem_reverse.1 hc)
  rw [trimChars, dropBlanks_visible h, dropBlanks_visible hreverse, List.reverse_reverse]

/-! ### Blank texts -/

theorem dropBlanks_eq_nil {cs : List Char} : dropBlanks cs = [] ↔ cs.all isBlankChar = true := by
  rw [dropBlanks, List.dropWhile_eq_nil_iff, List.all_eq_true]

theorem all_dropBlanks (cs : List Char) : (dropBlanks cs).all isBlankChar = cs.all isBlankChar := by
  have hsplit : cs.takeWhile isBlankChar ++ dropBlanks cs = cs := List.takeWhile_append_dropWhile
  conv => rhs; rw [← hsplit, List.all_append, List.all_takeWhile, Bool.true_and]

/-- A text is blank when nothing is left without the white space at its ends. -/
theorem isEmpty_trim (s : String) : (trim s).isEmpty = isBlank s := by
  rw [Bool.eq_iff_iff, String.isEmpty_iff, trim, String.ofList_eq_empty_iff, trimChars,
    List.reverse_eq_nil_iff, dropBlanks_eq_nil, List.all_reverse, all_dropBlanks, isBlank]

end EntityGraph.Text
