import EntityGraph.Number.Ratio
/-!
# Binary floating-point numbers of 64 bits

A number is its bit pattern: a sign, an exponent of 11 bits and a fraction of
52. A finite pattern stands for `mantissa * 2 ^ scale`, so every operation is
exact arithmetic on naturals followed, where it needs one, by a single
rounding to the nearest pattern.
-/

namespace EntityGraph.Number

/-- A floating-point number, as its 64 bits. -/
structure Binary64 where
  bits : UInt64
deriving DecidableEq, Repr

namespace Binary64

/-- The sign bit. -/
def isNegative (x : Binary64) : Bool :=
  decide (Nat.pow 2 63 ≤ x.bits.toNat)

/-- The exponent field. -/
def exponent (x : Binary64) : Nat :=
  x.bits.toNat / Nat.pow 2 52 % Nat.pow 2 11

/-- The fraction field. -/
def fraction (x : Binary64) : Nat :=
  x.bits.toNat % Nat.pow 2 52

/-- A pattern is finite unless its exponent field is all ones. -/
def isFinite (x : Binary64) : Bool :=
  x.exponent != 2047

/-- The patterns that stand for no number at all. -/
def isNaN (x : Binary64) : Bool :=
  x.exponent == 2047 && x.fraction != 0

/-- Zero of either sign. -/
def isZero (x : Binary64) : Bool :=
  x.exponent == 0 && x.fraction == 0

/-- The whole number that `2 ^ scale` is multiplied by. -/
def mantissa (x : Binary64) : Nat :=
  if x.exponent = 0 then x.fraction else Nat.pow 2 52 + x.fraction

/-- The power of two that the mantissa is multiplied by. -/
def scale (x : Binary64) : Int :=
  if x.exponent = 0 then -1074 else x.exponent - 1075

/-- The numerator of the absolute value of a finite number. -/
def num (x : Binary64) : Nat :=
  x.mantissa * powNum 2 x.scale

/-- The denominator of the absolute value of a finite number. -/
def den (x : Binary64) : Nat :=
  powDen 2 x.scale

/-- The pattern with the given sign and the other 63 bits. -/
def ofSigned (negative : Bool) (rest : Nat) : Binary64 :=
  ⟨UInt64.ofNat (rest + if negative then Nat.pow 2 63 else 0)⟩

/-- Infinity of the given sign. -/
def infinity (negative : Bool) : Binary64 :=
  ofSigned negative (2047 * Nat.pow 2 52)

/-- The canonical pattern that stands for no number. -/
def nan : Binary64 :=
  ⟨0x7ff8000000000000⟩

/-- Positive zero. -/
def zero : Binary64 := ⟨0⟩

/-- The exponent of the power of two just below `num / den`, a positive
fraction. -/
def floorLog2 (num den : Nat) : Int :=
  let guess : Int := num.log2 - den.log2
  if den * powNum 2 guess ≤ num * powDen 2 guess then guess else guess - 1

/-- The number nearest to `num / den` with the given sign, a tie going to the
even mantissa; beyond the largest finite number it is infinity. -/
def nearest (negative : Bool) (num den : Nat) : Binary64 :=
  if num = 0 then ofSigned negative 0
  else
    let scale := max (floorLog2 num den - 52) (-1074)
    let mantissa := divNearestEven (num * powDen 2 scale) (den * powNum 2 scale)
    let rest := (scale + 1074).toNat * Nat.pow 2 52 + mantissa
    if rest < 2047 * Nat.pow 2 52 then ofSigned negative rest else infinity negative

/-- The number nearest to an integer. -/
def ofInt (n : Int) : Binary64 :=
  nearest (decide (n < 0)) n.natAbs 1

/-- The number nearest to `digits * 10 ^ exponent` with the given sign. Beyond
400 decimal places either way the answer is infinity or zero, so no larger
power is ever formed. -/
def ofDecimal (negative : Bool) (digits : Nat) (exponent : Int) : Binary64 :=
  if digits = 0 then ofSigned negative 0
  else
    let magnitude := log10 digits + exponent
    if 400 < magnitude then infinity negative
    else if magnitude < -400 then ofSigned negative 0
    else nearest negative (digits * powNum 10 exponent) (powDen 10 exponent)

/-- The number with its sign turned. -/
def neg (x : Binary64) : Binary64 :=
  ⟨x.bits ^^^ 0x8000000000000000⟩

/-- The number nearest to the product of two finite numbers. -/
def times (x y : Binary64) : Binary64 :=
  nearest (x.isNegative != y.isNegative) (x.num * y.num) (x.den * y.den)

/-- The number nearest to the quotient of two finite numbers, of which the
second is not zero. -/
def dividedBy (x y : Binary64) : Binary64 :=
  nearest (x.isNegative != y.isNegative) (x.num * y.den) (x.den * y.num)

/-- An absolute value with the sign of `x`. -/
def signed (x : Binary64) (magnitude : Nat) : Int :=
  if x.isNegative then -(magnitude : Int) else magnitude

/-- The 64-bit integer that `magnitude`, a rounding of the absolute value of
`x`, stands for: out of range goes to the nearer end, and no number to
zero. -/
def saturate (x : Binary64) (magnitude : Nat) : Int :=
  if x.isNaN then 0
  else if x.isFinite then clamp int64Min int64Max (x.signed magnitude)
  else if x.isNegative then int64Min else int64Max

/-- The 64-bit integer nearest to `x` toward zero. -/
def truncate (x : Binary64) : Int :=
  x.saturate (x.num / x.den)

/-- The 64-bit integer nearest to `x`, a tie going away from zero. -/
def round (x : Binary64) : Int :=
  x.saturate (divNearestUp x.num x.den)

end Binary64

end EntityGraph.Number
