import EntityGraph.Number.Binary64
import Mathlib.Data.Rat.Floor
/-!
# Numbers cut to whole ones

A finite floating-point number stands for a fraction (`Binary64.toRat`). Cutting
the number to a 64-bit integer is cutting the fraction toward zero and moving
what is out of range to the nearer end (`Binary64.truncate_eq`). Cutting never
turns an order around (`towardZero_mono`).
-/

namespace EntityGraph.Number

/-- The whole number next to a fraction on the side of zero. -/
def towardZero (q : ℚ) : ℤ :=
  if 0 ≤ q then ⌊q⌋ else ⌈q⌉

theorem towardZero_neg (q : ℚ) : towardZero (-q) = -towardZero q := by
  rcases lt_trichotomy q 0 with hneg | rfl | hpos
  · rw [towardZero, towardZero, if_pos (neg_nonneg.2 hneg.le), if_neg (not_le.2 hneg),
      Int.floor_neg]
  · simp [towardZero]
  · rw [towardZero, towardZero, if_neg (by simpa using hpos), if_pos hpos.le, Int.ceil_neg]

/-- **Larger fractions are not cut to smaller numbers.** -/
theorem towardZero_mono {q r : ℚ} (h : q ≤ r) : towardZero q ≤ towardZero r := by
  unfold towardZero
  split_ifs with hq hr hr
  · exact Int.floor_mono h
  · exact absurd (hq.trans h) hr
  · -- Zero lies between the two.
    exact (Int.ceil_le.2 (by simpa using (not_le.1 hq).le)).trans (Int.floor_nonneg.2 hr)
  · exact Int.ceil_mono h

theorem towardZero_div (m d : ℕ) : towardZero (m / d) = (m / d : ℕ) := by
  rw [towardZero, if_pos (by positivity), Rat.floor_natCast_div_natCast, Int.natCast_div]

theorem towardZero_intCast (n : ℤ) : towardZero n = n := by
  rw [towardZero, Int.floor_intCast, Int.ceil_intCast, ite_self]

theorem clamp_mono (lo hi : ℤ) {m n : ℤ} (h : m ≤ n) : clamp lo hi m ≤ clamp lo hi n :=
  max_le_max_left lo (min_le_min_left hi h)

namespace Binary64

/-- The fraction that a finite number stands for. -/
def toRat (x : Binary64) : ℚ :=
  x.signed x.num / x.den

/-- The sign may be put before or after cutting. -/
theorem towardZero_toRat (x : Binary64) : towardZero x.toRat = x.signed (x.num / x.den) := by
  unfold toRat signed
  split
  · rw [Int.cast_neg, neg_div, towardZero_neg, Int.cast_natCast, towardZero_div]
  · rw [Int.cast_natCast, towardZero_div]

/-- **A finite number is cut toward zero and kept in the 64-bit range.** -/
theorem truncate_eq {x : Binary64} (h : x.isFinite = true) :
    x.truncate = clamp int64Min int64Max (towardZero x.toRat) := by
  have hnumber : x.isNaN = false := by
    unfold isFinite at h
    unfold isNaN
    have hexponent : (x.exponent == 2047) = false := by simpa using h
    rw [hexponent, Bool.false_and]
  rw [truncate, saturate, hnumber, h, towardZero_toRat]
  rfl

end Binary64

end EntityGraph.Number
