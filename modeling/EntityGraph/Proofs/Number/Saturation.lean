import EntityGraph.Proofs.Number.Range
import Mathlib.Algebra.Group.Nat.Defs
/-!
# Integers out of range

An integer that does not fit a signed 64-bit word comes back from the nearest
floating-point number as the nearer end of the range (`Binary64.round_ofInt`).
Such an integer has at least 64 binary digits, so the exponent of the number
nearest to it is large enough for the number to be a whole one, at least
`2 ^ 63`, or else to be infinite.
-/

namespace EntityGraph.Number

/-- Rounding to the nearest whole number never goes below the quotient. -/
theorem le_divNearestEven (num den : Nat) : num / den ≤ divNearestEven num den := by
  unfold divNearestEven
  dsimp only
  split
  · exact Nat.le_refl _
  split
  · exact Nat.le_succ _
  split
  · exact Nat.le_refl _
  · exact Nat.le_succ _

/-- An integer in range is its own nearest one. -/
theorem clamp_eq_self {n : Int} (h : isInt64 n = true) : clamp int64Min int64Max n = n := by
  have := isInt64_iff.1 h
  unfold clamp
  omega

namespace Binary64

/-! ### The fields of a pattern -/

section Fields

variable {rest : Nat}

theorem toNat_ofSigned (h : rest < 2 ^ 63) (negative : Bool) :
    (ofSigned negative rest).bits.toNat = rest + if negative then 2 ^ 63 else 0 := by
  refine UInt64.toNat_ofNat_of_lt' ?_
  show rest + (if negative then 2 ^ 63 else 0) < 2 ^ 64
  split <;> omega

theorem isNegative_ofSigned (h : rest < 2 ^ 63) (negative : Bool) :
    (ofSigned negative rest).isNegative = negative := by
  rw [isNegative, toNat_ofSigned h]
  show decide (2 ^ 63 ≤ _) = negative
  cases negative with
  | false => exact decide_eq_false (by simpa using h)
  | true => exact decide_eq_true (by simp)

theorem exponent_ofSigned (h : rest < 2 ^ 63) (negative : Bool) :
    (ofSigned negative rest).exponent = rest / 2 ^ 52 := by
  rw [exponent, toNat_ofSigned h]
  show (rest + _) / 2 ^ 52 % 2 ^ 11 = _
  split <;> omega

theorem fraction_ofSigned (h : rest < 2 ^ 63) (negative : Bool) :
    (ofSigned negative rest).fraction = rest % 2 ^ 52 := by
  rw [fraction, toNat_ofSigned h]
  show (rest + _) % 2 ^ 52 = _
  split <;> omega

end Fields

/-! ### Large numbers -/

/-- A finite number with an exponent field of 1086 or more is a whole one with
at least 64 binary digits. -/
theorem le_num_of_le_exponent {x : Binary64} (h : 1086 ≤ x.exponent) :
    x.den = 1 ∧ 2 ^ 63 ≤ x.num := by
  have hscale : x.scale = ((x.exponent - 1075 : Nat) : Int) := by
    rw [scale, if_neg (by omega)]
    omega
  have hmantissa : 2 ^ 52 ≤ x.mantissa := by
    rw [mantissa, if_neg (by omega)]
    exact Nat.le_add_right _ _
  have hpow : 2 ^ 11 ≤ 2 ^ (x.exponent - 1075) := Nat.pow_le_pow_right (by decide) (by omega)
  constructor
  · rw [den, powDen, hscale, Int.toNat_neg_natCast]
  · calc 2 ^ 63 = 2 ^ 52 * 2 ^ 11 := by decide
      _ ≤ x.mantissa * 2 ^ (x.exponent - 1075) := Nat.mul_le_mul hmantissa hpow
      _ = x.num := by rw [num, powNum, hscale, Int.toNat_natCast]; rfl

/-- From such a number on up to infinity, every one is rounded to an end of the
range. -/
theorem round_ofSigned {rest : Nat} (hlow : 1086 * 2 ^ 52 ≤ rest) (hhigh : rest ≤ 2047 * 2 ^ 52)
    (negative : Bool) :
    (ofSigned negative rest).round = if negative then int64Min else int64Max := by
  have hrest : rest < 2 ^ 63 := by omega
  have hexponent := exponent_ofSigned hrest negative
  have hfraction := fraction_ofSigned hrest negative
  have hnumber : (ofSigned negative rest).isNaN = false := by
    rw [isNaN, hexponent, hfraction]
    -- The exponent field is all ones for infinity alone, whose fraction is zero.
    by_cases hinfinite : rest = 2047 * 2 ^ 52
    · rw [hinfinite]
      decide
    · have hbelow : rest / 2 ^ 52 ≠ 2047 := by omega
      rw [beq_eq_false_iff_ne.2 hbelow, Bool.false_and]
  rw [round, saturate, hnumber, isNegative_ofSigned hrest]
  split
  · contradiction
  · split
    · obtain ⟨hden, hnum⟩ := le_num_of_le_exponent (x := ofSigned negative rest) (by omega)
      have hwhole : divNearestUp (ofSigned negative rest).num 1 = (ofSigned negative rest).num := by
        unfold divNearestUp
        omega
      rw [hden, hwhole, signed, isNegative_ofSigned hrest, clamp]
      unfold int64Min int64Max
      cases negative with
      | false => simp only [Bool.false_eq_true, if_false]; omega
      | true => simp only [if_true]; omega
    · rfl

/-! ### Large integers -/

theorem floorLog2_one {n : Nat} (h : n ≠ 0) : floorLog2 n 1 = n.log2 := by
  have hguess : (n.log2 : Int) - Nat.log2 1 = n.log2 := Int.sub_zero _
  have hfits : 1 * powNum 2 n.log2 ≤ n * powDen 2 n.log2 := by
    rw [powNum, powDen, Int.toNat_natCast, Int.toNat_neg_natCast, Nat.one_mul]
    exact Nat.le_trans (Nat.log2_self_le h) (Nat.le_of_eq (Nat.mul_one n).symm)
  rw [floorLog2, hguess]
  exact if_pos hfits

/-- The number nearest to a natural of 64 binary digits or more lies between a
number with that exponent and infinity. -/
theorem exists_nearest {n : Nat} (h : 2 ^ 63 ≤ n) (negative : Bool) :
    ∃ rest, 1086 * 2 ^ 52 ≤ rest ∧ rest ≤ 2047 * 2 ^ 52 ∧
      nearest negative n 1 = ofSigned negative rest := by
  have hn : n ≠ 0 := by omega
  have hlog : 63 ≤ n.log2 := (Nat.le_log2 hn).2 h
  have hscale : max (floorLog2 n 1 - 52) (-1074) = ((n.log2 - 52 : Nat) : Int) := by
    rw [floorLog2_one hn]
    omega
  have hpower : 2 ^ 52 * 2 ^ (n.log2 - 52) ≤ n := by
    rw [← Nat.pow_add, Nat.add_sub_cancel' (by omega)]
    exact Nat.log2_self_le hn
  have hmantissa : 2 ^ 52 ≤ divNearestEven n (2 ^ (n.log2 - 52)) := by
    have hquotient : 2 ^ 52 ≤ n / 2 ^ (n.log2 - 52) :=
      (Nat.le_div_iff_mul_le (Nat.pow_pos (by decide))).2 hpower
    exact Nat.le_trans hquotient (le_divNearestEven _ _)
  have hrest : 1086 * 2 ^ 52 ≤ (((n.log2 - 52 : Nat) : Int) + 1074).toNat * 2 ^ 52 +
      divNearestEven n (2 ^ (n.log2 - 52)) := by
    have hfield : 1085 ≤ (((n.log2 - 52 : Nat) : Int) + 1074).toNat := by omega
    have := Nat.mul_le_mul_right (2 ^ 52) hfield
    omega
  have hnum : n * powDen 2 ((n.log2 - 52 : Nat) : Int) = n := by
    rw [powDen, Int.toNat_neg_natCast]
    exact Nat.mul_one n
  have hden : 1 * powNum 2 ((n.log2 - 52 : Nat) : Int) = 2 ^ (n.log2 - 52) := by
    rw [powNum, Int.toNat_natCast]
    exact Nat.one_mul _
  rw [nearest, if_neg hn]
  dsimp only
  rw [hscale, hnum, hden]
  split
  · next hfinite => exact ⟨_, hrest, Nat.le_of_lt hfinite, rfl⟩
  · exact ⟨2047 * 2 ^ 52, by decide, Nat.le_refl _, rfl⟩

/-- **An integer out of the 64-bit range comes back from the nearest
floating-point number as the nearer end of the range.** -/
theorem round_ofInt {n : Int} (h : isInt64 n = false) :
    (ofInt n).round = clamp int64Min int64Max n := by
  have hout : ¬ (int64Min ≤ n ∧ n ≤ int64Max) := by
    rw [← isInt64_iff, h]
    decide
  unfold int64Min int64Max at hout
  obtain ⟨rest, hlow, hhigh, hnearest⟩ :=
    exists_nearest (n := n.natAbs) (by omega) (decide (n < 0))
  rw [ofInt, hnearest, round_ofSigned hlow hhigh, clamp]
  unfold int64Min int64Max
  split
  · next hneg =>
    have := of_decide_eq_true hneg
    omega
  · next hpos =>
    have : ¬ n < 0 := fun hneg => hpos (decide_eq_true hneg)
    omega

end Binary64

end EntityGraph.Number
