import EntityGraph.Proofs.Number.Written
/-!
# Spelled integers

The decimal spellings of integers: a number has many, with zeros in front or a
plus, and each is the text of a floating-point number too. The text that is
written for a natural is one of its spellings (`spelled?_toString`). Whatever is
read as a number has the characters of one (`isNumberChar_of_readFloat`).
-/

namespace EntityGraph.Number

/-- The integer that is spelled in decimal: digits, behind one sign at most. -/
def spelled? (s : String) : Option Int :=
  match s.toList with
  | '-' :: cs => (natOfChars? cs).map fun m => -Int.ofNat m
  | '+' :: cs => (natOfChars? cs).map Int.ofNat
  | cs => (natOfChars? cs).map Int.ofNat

theorem natOfChars?_eq_some {cs : List Char} {n : Nat} (h : natOfChars? cs = some n) :
    cs ≠ [] ∧ (∀ c ∈ cs, c.isDigit = true) ∧ ofDigits 0 cs = n := by
  unfold natOfChars? at h
  split at h
  · cases h
  · next hform =>
    simp only [Bool.or_eq_true, List.isEmpty_iff, Bool.not_eq_true', not_or,
      Bool.not_eq_false, List.all_eq_true] at hform
    exact ⟨hform.1, hform.2, Option.some.inj h⟩

/-- Digits are a floating-point number. -/
theorem exists_magnitude {cs : List Char} {n : Nat} (h : natOfChars? cs = some n)
    (negative : Bool) : ∃ x, magnitudeOfChars? negative cs = some x := by
  obtain ⟨hne, hdigits, -⟩ := natOfChars?_eq_some h
  have htake : cs.takeWhile Char.isDigit = cs := List.takeWhile_eq_self_iff.2 hdigits
  have hdrop : cs.dropWhile Char.isDigit = [] := List.dropWhile_eq_nil_iff.2 hdigits
  have hdecimal : ∃ x, decimalOfChars? negative cs = some x := by
    simp [decimalOfChars?, htake, hdrop, hne, exponentOfChars?]
  simp only [magnitudeOfChars?]
  split
  · exact ⟨_, rfl⟩
  · split
    · exact ⟨_, rfl⟩
    · exact hdecimal

/-- A spelled integer is a floating-point number. -/
theorem exists_readFloat {s : String} {n : Int} (h : spelled? s = some n) :
    ∃ x, readFloat s = .ok x := by
  have hread {cs : List Char} {signed : Nat → Int} (hcs : (natOfChars? cs).map signed = some n)
      (negative : Bool) : ∃ x, magnitudeOfChars? negative cs = some x := by
    obtain ⟨m, hm, -⟩ := Option.map_eq_some_iff.1 hcs
    exact exists_magnitude hm negative
  unfold spelled? at h
  unfold readFloat
  split at h
  · next hs =>
    obtain ⟨x, hx⟩ := hread h true
    exact ⟨x, by simp [hs, hx]⟩
  · next hs =>
    obtain ⟨x, hx⟩ := hread h false
    exact ⟨x, by simp [hs, hx]⟩
  · next hminus hplus =>
    obtain ⟨x, hx⟩ := hread h false
    refine ⟨x, ?_⟩
    split
    · next hnil => simp [hnil, natOfChars?] at h
    · next hs => exact absurd hs (hminus _)
    · next hs => exact absurd hs (hplus _)
    · simp only [hx]

/-- The text of a natural spells it. -/
theorem spelled?_toString {n : Int} (hn : 0 ≤ n) : spelled? (toString n) = some n := by
  have hnat : (natOfChars? (Nat.toDigits 10 n.toNat)).map Int.ofNat = some n := by
    have hform : ((Nat.toDigits 10 n.toNat).isEmpty ||
        !(Nat.toDigits 10 n.toNat).all Char.isDigit) = false := by
      rw [List.isEmpty_eq_false_iff.2 Nat.toDigits_ne_nil,
        List.all_eq_true.2 fun c => isDigit_of_mem_toDigits]
      rfl
    rw [natOfChars?, hform, ofDigits_toDigits]
    exact congrArg some (Int.toNat_of_nonneg hn)
  rw [spelled?, toList_toString, if_pos hn]
  split
  · next hs => exact absurd (isDigit_of_mem_toDigits (hs ▸ List.mem_cons_self)) (by decide)
  · next hs => exact absurd (isDigit_of_mem_toDigits (hs ▸ List.mem_cons_self)) (by decide)
  · exact hnat

/-! ### The characters of numbers -/

/-- A character that a number may be written with: a digit, a sign, a point, or
a letter of an exponent, of infinity or of no number. -/
def isNumberChar (c : Char) : Bool :=
  c.isDigit || ['+', '-', '.'].contains c || "aefinty".toList.contains c.toLower

theorem isNumberChar_of_isDigit {c : Char} (h : c.isDigit = true) : isNumberChar c = true := by
  simp [isNumberChar, h]

theorem isNumberChar_of_natOfChars? {cs : List Char} {n : Nat} (h : natOfChars? cs = some n) :
    ∀ c ∈ cs, isNumberChar c = true := fun c hc =>
  isNumberChar_of_isDigit ((natOfChars?_eq_some h).2.1 c hc)

/-- A sign may come before a number. -/
theorem forall_isNumberChar_cons {c : Char} {cs : List Char} (hc : isNumberChar c = true)
    (hcs : ∀ d ∈ cs, isNumberChar d = true) : ∀ d ∈ c :: cs, isNumberChar d = true :=
  List.forall_mem_cons.2 ⟨hc, hcs⟩

theorem isNumberChar_of_readDigits {lo hi n : Int} {signed : Nat → Int} {cs : List Char}
    (h : readDigits lo hi signed cs = .ok n) : ∀ c ∈ cs, isNumberChar c = true := by
  unfold readDigits at h
  split at h
  · cases h
  · split at h
    · cases h
    · next hform =>
      simp only [Bool.or_eq_true, Bool.not_eq_true', not_or, Bool.not_eq_false,
        List.all_eq_true] at hform
      exact fun c hc => isNumberChar_of_isDigit (hform.2 c hc)

theorem isNumberChar_of_readInt {lo hi n : Int} {s : String} (h : readInt lo hi s = .ok n) :
    ∀ c ∈ s.toList, isNumberChar c = true := by
  unfold readInt at h
  split at h
  · cases h
  · next hs =>
    split at h
    · cases h
    · exact hs ▸ forall_isNumberChar_cons (by decide) (isNumberChar_of_readDigits h)
  · next hs => exact hs ▸ forall_isNumberChar_cons (by decide) (isNumberChar_of_readDigits h)
  · exact isNumberChar_of_readDigits h

theorem isNumberChar_of_exponent {cs : List Char} {e : Int} (h : exponentOfChars? cs = some e) :
    ∀ c ∈ cs, isNumberChar c = true := by
  unfold exponentOfChars? at h
  split at h
  · simp
  · next c cs =>
    split at h
    · next hletter =>
      have hc : isNumberChar c = true := by
        rcases Bool.or_eq_true _ _ ▸ hletter with hletter | hletter <;>
          rw [beq_iff_eq.1 hletter] <;> decide
      refine forall_isNumberChar_cons hc ?_
      split at h
      all_goals
        obtain ⟨_, hdigits, -⟩ := Option.map_eq_some_iff.1 h
        obtain ⟨n, hn, -⟩ := Option.bind_eq_some_iff.1 hdigits
      · exact forall_isNumberChar_cons (by decide) (isNumberChar_of_natOfChars? hn)
      · exact forall_isNumberChar_cons (by decide) (isNumberChar_of_natOfChars? hn)
      · exact isNumberChar_of_natOfChars? hn
    · cases h

/-- The digits in front are characters of a number, so the others decide. -/
theorem forall_isNumberChar_of_dropWhile {cs : List Char}
    (h : ∀ c ∈ cs.dropWhile Char.isDigit, isNumberChar c = true) :
    ∀ c ∈ cs, isNumberChar c = true := by
  intro c hc
  rw [← List.takeWhile_append_dropWhile (p := Char.isDigit) (l := cs), List.mem_append] at hc
  rcases hc with hc | hc
  · exact isNumberChar_of_isDigit (List.mem_takeWhile_imp hc)
  · exact h c hc

theorem isNumberChar_of_decimal {negative : Bool} {cs : List Char} {x : Binary64}
    (h : decimalOfChars? negative cs = some x) : ∀ c ∈ cs, isNumberChar c = true := by
  have htail {negative : Bool} {whole places tail : List Char}
      (h : (if (whole.isEmpty && places.isEmpty) = true then none
        else (exponentOfChars? tail).map fun e =>
          Binary64.ofDecimal negative (ofDigits 0 (whole ++ places)) (e - places.length)) =
        some x) : ∀ c ∈ tail, isNumberChar c = true := by
    split at h
    · cases h
    · obtain ⟨e, he, -⟩ := Option.map_eq_some_iff.1 h
      exact isNumberChar_of_exponent he
  simp only [decimalOfChars?] at h
  refine forall_isNumberChar_of_dropWhile ?_
  split at h
  · next hpoint =>
    rw [hpoint]
    exact forall_isNumberChar_cons (by decide) (forall_isNumberChar_of_dropWhile (htail h))
  · exact htail h

/-- The letters of a word in any case. -/
theorem isNumberChar_of_word {cs : List Char} {word : String}
    (h : (String.ofList (cs.map Char.toLower) == word) = true)
    (hword : word.toList.all ("aefinty".toList.contains ·) = true) :
    ∀ c ∈ cs, isNumberChar c = true := by
  intro c hc
  have hlower : c.toLower ∈ word.toList := by
    rw [← beq_iff_eq.1 h, String.toList_ofList]
    exact List.mem_map_of_mem hc
  rw [isNumberChar, List.all_eq_true.1 hword _ hlower, Bool.or_true]

theorem isNumberChar_of_magnitude {negative : Bool} {cs : List Char} {x : Binary64}
    (h : magnitudeOfChars? negative cs = some x) : ∀ c ∈ cs, isNumberChar c = true := by
  simp only [magnitudeOfChars?] at h
  split at h
  · next hword =>
    rcases Bool.or_eq_true _ _ ▸ hword with hword | hword
    · exact isNumberChar_of_word hword (by decide)
    · exact isNumberChar_of_word hword (by decide)
  · split at h
    · next hword => exact isNumberChar_of_word hword (by decide)
    · exact isNumberChar_of_decimal h

theorem isNumberChar_of_readFloat {s : String} {x : Binary64} (h : readFloat s = .ok x) :
    ∀ c ∈ s.toList, isNumberChar c = true := by
  simp only [readFloat] at h
  split at h
  · cases h
  · next hs =>
    split at h
    · next hx => exact hs ▸ forall_isNumberChar_cons (by decide) (isNumberChar_of_magnitude hx)
    · cases h
  · next hs =>
    split at h
    · next hx => exact hs ▸ forall_isNumberChar_cons (by decide) (isNumberChar_of_magnitude hx)
    · cases h
  · split at h
    · next hx => exact isNumberChar_of_magnitude hx
    · cases h

end EntityGraph.Number
