import EntityGraph.Proofs.Number.Numeral
import EntityGraph.Proofs.Text.Visible
/-!
# Integers in decimal

The decimal text of an integer is read as the integer where that is between the
bounds, and is refused for being on the far side of one of them where it is not
(`readInt_toString`).
-/

namespace EntityGraph.Number

theorem ofDigits_toDigits (n : Nat) : ofDigits 0 (Nat.toDigits 10 n) = n :=
  Nat.ofDigitChars_eq_foldl.symm.trans Nat.ofDigitChars_ten_toDigits

theorem isDigit_of_mem_toDigits {n : Nat} {c : Char} (h : c ∈ Nat.toDigits 10 n) :
    c.isDigit = true :=
  Nat.isDigit_of_mem_toDigits (by decide) (by decide) h

/-- A text of an integer is its digits, behind a minus when it is negative. -/
theorem toList_toString (n : Int) : (toString n).toList =
    if 0 ≤ n then Nat.toDigits 10 n.toNat else '-' :: Nat.toDigits 10 (-n).toNat := by
  rw [Int.toString_eq_repr, Int.repr_eq_if]
  split
  · rw [Nat.repr_eq_ofList_toDigits, String.toList_ofList]
  · rw [Nat.repr_eq_ofList_toDigits, String.toList_append, String.toList_ofList,
      String.toList_ofList]
    rfl

theorem isVisibleChar_of_mem_toString {n : Int} {c : Char} (h : c ∈ (toString n).toList) :
    Text.IsVisibleChar c := by
  rw [toList_toString] at h
  split at h
  · exact Text.isVisibleChar_of_isDigit (isDigit_of_mem_toDigits h)
  · rcases List.mem_cons.1 h with rfl | h
    · decide
    · exact Text.isVisibleChar_of_isDigit (isDigit_of_mem_toDigits h)

/-- There is nothing to take off at its ends. -/
theorem trim_toString (n : Int) : Text.trim (toString n) = toString n := by
  rw [Text.trim, Text.trimChars_visible fun c hc => isVisibleChar_of_mem_toString hc,
    String.ofList_toList]

/-- Nothing but digits counts and nothing is left over. -/
theorem readDigits_toDigits (lo hi : Int) (signed : Nat → Int) (n : Nat) :
    readDigits lo hi signed (Nat.toDigits 10 n) = within lo hi (signed n) := by
  have hdigits : ∀ c ∈ Nat.toDigits 10 n, c.isDigit = true := fun c => isDigit_of_mem_toDigits
  have htake : (Nat.toDigits 10 n).takeWhile Char.isDigit = Nat.toDigits 10 n :=
    List.takeWhile_eq_self_iff.2 hdigits
  have hform : ((Nat.toDigits 10 n).isEmpty || !(Nat.toDigits 10 n).all Char.isDigit) = false := by
    rw [List.isEmpty_eq_false_iff.2 Nat.toDigits_ne_nil, List.all_eq_true.2 hdigits]
    rfl
  rw [readDigits, htake, ofDigits_toDigits, hform]
  cases within lo hi (signed n) <;> rfl

/-- **The text of an integer is read as the integer,** if it is between the
bounds. -/
theorem readInt_toString {lo : Int} (hlo : lo < 0) (hi n : Int) :
    readInt lo hi (toString n) = within lo hi n := by
  rw [readInt, toList_toString]
  by_cases hsign : 0 ≤ n
  · rw [if_pos hsign]
    have hback : Int.ofNat n.toNat = n := Int.toNat_of_nonneg hsign
    have hread := readDigits_toDigits lo hi Int.ofNat n.toNat
    rw [hback] at hread
    -- A digit is none of the two signs.
    split
    · next hnil => exact absurd hnil Nat.toDigits_ne_nil
    · next hminus =>
      exact absurd (isDigit_of_mem_toDigits (hminus ▸ List.mem_cons_self)) (by decide)
    · next hplus =>
      exact absurd (isDigit_of_mem_toDigits (hplus ▸ List.mem_cons_self)) (by decide)
    · exact hread
  · rw [if_neg hsign]
    have hback : -((-n).toNat : Int) = n := by omega
    have hread := readDigits_toDigits lo hi (fun m => -(m : Int)) (-n).toNat
    rw [hback] at hread
    exact (if_neg (by omega)).trans hread

end EntityGraph.Number
