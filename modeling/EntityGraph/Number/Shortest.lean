import EntityGraph.Number.Binary64
/-!
# Shortest decimals

The fewest decimal digits that read back as a given floating-point number, and
two ways of writing them. On each grid of powers of ten, from coarse to fine,
the two neighbours of the number are tried; the first grid with a neighbour
that reads back wins, and of two such neighbours the nearer one. When both are
equally near, each way of writing has a rule of its own.
-/

namespace EntityGraph.Number

/-- A positive decimal `digits * 10 ^ exponent`. -/
structure Decimal where
  digits : Nat
  exponent : Int
deriving DecidableEq, Repr

/-- Which of two equally near neighbours on a grid is taken. -/
inductive Tie where
  /-- The one whose last digit is even. -/
  | toEven
  /-- The one farther from zero. -/
  | away
deriving DecidableEq, Repr

/-- The whole number nearest to `num / den`. -/
def Tie.nearest (tie : Tie) (num den : Nat) : Nat :=
  match tie with
  | toEven => divNearestEven num den
  | away => divNearestUp num den

namespace Binary64

/-- The interval of reals that round to a positive finite number, in quarters
of its last place: the ends and whether they belong to it. -/
structure Interval where
  low : Nat
  value : Nat
  high : Nat
  closed : Bool

/-- The interval of a positive finite number. Below a power of two the
neighbour is half as far. -/
def interval (x : Binary64) : Interval where
  low := 4 * x.mantissa - if x.fraction = 0 ∧ 1 < x.exponent then 1 else 2
  value := 4 * x.mantissa
  high := 4 * x.mantissa + 2
  closed := x.mantissa % 2 == 0

/-- Whether `n` quarters, brought to the denominator `den`, lie in the
interval. -/
def Interval.contains (i : Interval) (num den n : Nat) : Bool :=
  if i.closed then decide (i.low * num ≤ n * den) && decide (n * den ≤ i.high * num)
  else decide (i.low * num < n * den) && decide (n * den < i.high * num)

/-- The neighbour on the grid `10 ^ exponent` that reads back, the nearer one
if both do. -/
def onGrid? (x : Binary64) (tie : Tie) (exponent : Int) : Option Decimal :=
  let i := x.interval
  let num := powNum 2 (x.scale - 2) * powDen 10 exponent
  let den := powDen 2 (x.scale - 2) * powNum 10 exponent
  -- A point `n` of the grid is `n * den / num` quarters.
  let below := i.value * num / den
  let fits (n : Nat) : Bool := n != 0 && i.contains num den n
  match fits below, fits (below + 1) with
  | true, true =>
    some ⟨tie.nearest (i.value * num) den, exponent⟩
  | true, false => some ⟨below, exponent⟩
  | false, true => some ⟨below + 1, exponent⟩
  | false, false => none

/-- The first grid that reads back, from `10 ^ exponent` down. -/
def firstGrid (x : Binary64) (tie : Tie) : Nat → Int → Decimal
  | 0, exponent => ⟨0, exponent⟩
  | fuel + 1, exponent =>
    match x.onGrid? tie exponent with
    | some d => d
    | none => firstGrid x tie fuel (exponent - 1)

/-- An exponent `k` for which a positive finite number is below `10 ^ k`, or
at most one power too large. -/
def magnitude10 (x : Binary64) : Int :=
  if x.den ≤ x.num then log10 (x.num / x.den) + 1 else -(log10 (x.den / x.num) : Int) + 1

/-- The shortest decimal that reads back as the absolute value of a finite
number other than zero. -/
def shortest (x : Binary64) (tie : Tie) : Decimal :=
  firstGrid x tie 20 x.magnitude10

end Binary64

namespace Decimal

/-- The digits, most significant first. -/
def digitChars (d : Decimal) : List Char :=
  Nat.toDigits 10 d.digits

/-- The place of the decimal point, counted from before the first digit. -/
def point (d : Decimal) : Int :=
  d.digitChars.length + d.exponent

/-- Positional writing: the decimal point at its place, with zeros up to it;
`suffix` follows a whole number. -/
def positional (d : Decimal) (suffix : String) : String :=
  let ds := d.digitChars
  if 0 ≤ d.exponent then
    String.ofList (ds ++ List.replicate d.exponent.toNat '0') ++ suffix
  else if 0 < d.point then
    String.ofList (ds.take d.point.toNat ++ '.' :: ds.drop d.point.toNat)
  else
    String.ofList ('0' :: '.' :: (List.replicate (-d.point).toNat '0' ++ ds))

/-- Scientific writing: one digit before the point and a signed exponent. -/
def scientific (d : Decimal) : String :=
  let head := d.digitChars.take 1
  let tail := d.digitChars.drop 1
  let exponent := d.point - 1
  String.ofList (if tail.isEmpty then head else head ++ '.' :: tail)
    ++ "e" ++ (if exponent < 0 then "-" else "+") ++ toString exponent.natAbs

end Decimal

namespace Binary64

/-- The sign in front of a written number. -/
def signText (x : Binary64) : String :=
  if x.isNegative then "-" else ""

/-- The writing of a finite number in documents: positional from `0.00001` up
to below `10 ^ 16`, with a point in every number, and scientific outside. A tie
goes to the even digit. -/
def toText (x : Binary64) : String :=
  if x.isZero then x.signText ++ "0.0"
  else
    let d := x.shortest .toEven
    x.signText ++ if -5 < d.point ∧ d.point ≤ 16 then d.positional ".0" else d.scientific

/-- The plain writing of a number in messages: always positional, whole
numbers without a point. A tie goes away from zero. -/
def toPlainText (x : Binary64) : String :=
  if x.isNaN then "NaN"
  else if !x.isFinite then x.signText ++ "inf"
  else if x.isZero then x.signText ++ "0"
  else x.signText ++ (x.shortest .away).positional ""

end Binary64

end EntityGraph.Number
