/-!
# Rounded quotients

Quotients of naturals rounded to a whole number: to the nearest one with ties
to the even neighbour, or with ties upward, and the order of magnitude of a
natural in base ten.
-/

namespace EntityGraph.Number

/-- The whole number nearest to `num / den`, a tie going to the even one. -/
def divNearestEven (num den : Nat) : Nat :=
  let q := num / den
  let r := num % den
  if 2 * r < den then q
  else if den < 2 * r then q + 1
  else if q % 2 = 0 then q else q + 1

/-- The whole number nearest to `num / den`, a tie going upward. -/
def divNearestUp (num den : Nat) : Nat :=
  (2 * num + den) / (2 * den)

/-- The largest `k` with `10 ^ k ≤ n`, for a positive `n`, searched within
`fuel` steps. -/
def log10Within : Nat → Nat → Nat
  | 0, _ => 0
  | fuel + 1, n => if n < 10 then 0 else log10Within fuel (n / 10) + 1

/-- The largest `k` with `10 ^ k ≤ n`, for a positive `n`. -/
def log10 (n : Nat) : Nat :=
  log10Within n.log2.succ n

/-- The factor by which a numerator grows when it is multiplied by
`base ^ exponent`, one for a negative exponent. -/
def powNum (base : Nat) (exponent : Int) : Nat :=
  Nat.pow base exponent.toNat

/-- The factor by which a denominator grows when a fraction is multiplied by
`base ^ exponent`, one for a positive exponent. -/
def powDen (base : Nat) (exponent : Int) : Nat :=
  Nat.pow base (-exponent).toNat

/-- The integer in the range from `lo` to `hi` that is nearest to `n`. -/
def clamp (lo hi n : Int) : Int :=
  max lo (min hi n)

/-- The smallest signed 64-bit integer. -/
def int64Min : Int := -9223372036854775808

/-- The largest signed 64-bit integer. -/
def int64Max : Int := 9223372036854775807

/-- The largest signed 32-bit integer. -/
def int32Max : Int := 2147483647

/-- The largest unsigned 32-bit integer. -/
def word32Max : Int := 4294967295

/-- The largest unsigned 64-bit integer. -/
def word64Max : Int := 18446744073709551615

/-- The integers that fit a signed 64-bit word. -/
def isInt64 (n : Int) : Bool :=
  decide (int64Min ≤ n) && decide (n ≤ int64Max)

/-- The integers that fit an unsigned 32-bit word. -/
def isWord32 (n : Int) : Bool :=
  decide (0 ≤ n) && decide (n ≤ word32Max)

end EntityGraph.Number
