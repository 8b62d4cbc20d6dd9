import EntityGraph.Number.Binary64
/-!
# Numerals

Reading whole numbers and floating-point numbers from text, with the reason
when a text is none, and writing naturals with a fixed number of digits.
-/

namespace EntityGraph.Number

/-- Why a text is not a number. -/
inductive NumeralFault where
  /-- There is no character to read. -/
  | emptyInteger
  /-- A character that is no digit, or no digit at all. -/
  | invalidDigit
  /-- The number is above the largest one. -/
  | tooLarge
  /-- The number is below the smallest one. -/
  | tooSmall
  /-- There is no character to read. -/
  | emptyFloat
  /-- The text has not the form of a decimal. -/
  | invalidFloat
deriving DecidableEq, Repr

/-- The wording of each reason. -/
def NumeralFault.message : NumeralFault → String
  | .emptyInteger => "cannot parse integer from empty string"
  | .invalidDigit => "invalid digit found in string"
  | .tooLarge => "number too large to fit in target type"
  | .tooSmall => "number too small to fit in target type"
  | .emptyFloat => "cannot parse float from empty string"
  | .invalidFloat => "invalid float literal"

/-- The value of a decimal digit. -/
def digitValue (c : Char) : Nat :=
  c.toNat - '0'.toNat

/-- The number that digits stand for after the digits of `acc`. -/
def ofDigits (acc : Nat) (cs : List Char) : Nat :=
  cs.foldl (fun n c => 10 * n + digitValue c) acc

/-- The last `width` decimal digits of `n`, with zeros in front. -/
def padded : Nat → Nat → List Char
  | 0, _ => []
  | width + 1, n => padded width (n / 10) ++ [Nat.digitChar (n % 10)]

/-- A whole number made of digits alone. -/
def natOfChars? (cs : List Char) : Option Nat :=
  if cs.isEmpty || !cs.all Char.isDigit then none else some (ofDigits 0 cs)

/-- Puts a whole number between two bounds, or says on which side it is. -/
def within (lo hi n : Int) : Except NumeralFault Int :=
  if n < lo then .error .tooSmall else if hi < n then .error .tooLarge else .ok n

/-- Reads the digits of a whole number between two bounds. The digits before
the first other character count: when they already go past a bound, that is
the fault, whatever follows. -/
def readDigits (lo hi : Int) (signed : Nat → Int) (cs : List Char) : Except NumeralFault Int :=
  match within lo hi (signed (ofDigits 0 (cs.takeWhile Char.isDigit))) with
  | .error fault => .error fault
  | .ok n => if cs.isEmpty || !cs.all Char.isDigit then .error .invalidDigit else .ok n

/-- Reads a whole number between two bounds: ASCII digits after an optional
plus, or after a minus when the lower bound is negative. -/
def readInt (lo hi : Int) (s : String) : Except NumeralFault Int :=
  match s.toList with
  | [] => .error .emptyInteger
  | '-' :: cs =>
    if 0 ≤ lo then .error .invalidDigit else readDigits lo hi (fun n => -(n : Int)) cs
  | '+' :: cs => readDigits lo hi Int.ofNat cs
  | cs => readDigits lo hi Int.ofNat cs

/-- Reads a signed 64-bit integer. -/
def readInt64 (s : String) : Except NumeralFault Int :=
  readInt int64Min int64Max s

/-- Reads an unsigned 64-bit integer. -/
def readWord64 (s : String) : Except NumeralFault Int :=
  readInt 0 word64Max s

/-- The exponent part of a decimal: nothing, or `e`, a sign and digits. -/
def exponentOfChars? : List Char → Option Int
  | [] => some 0
  | e :: cs =>
    if e == 'e' || e == 'E' then
      match cs with
      | '-' :: ds => (natOfChars? ds).map fun n => -(n : Int)
      | '+' :: ds => (natOfChars? ds).map fun n => (n : Int)
      | ds => (natOfChars? ds).map fun n => (n : Int)
    else none

/-- Reads the digits of an unsigned decimal: digits, a point and digits, of
which one side may be missing, and an exponent. -/
def decimalOfChars? (negative : Bool) (cs : List Char) : Option Binary64 :=
  let whole := cs.takeWhile Char.isDigit
  let rest := cs.dropWhile Char.isDigit
  let (places, tail) :=
    match rest with
    | '.' :: ds => (ds.takeWhile Char.isDigit, ds.dropWhile Char.isDigit)
    | ds => ([], ds)
  if whole.isEmpty && places.isEmpty then none
  else
    (exponentOfChars? tail).map fun e =>
      .ofDecimal negative (ofDigits 0 (whole ++ places)) (e - places.length)

/-- Reads an unsigned floating-point number: a decimal, or a word for
infinity or for no number in any case. -/
def magnitudeOfChars? (negative : Bool) (cs : List Char) : Option Binary64 :=
  let word := String.ofList (cs.map Char.toLower)
  if word == "inf" || word == "infinity" then some (.infinity negative)
  else if word == "nan" then some .nan
  else decimalOfChars? negative cs

/-- Reads a floating-point number with an optional sign. -/
def readFloat (s : String) : Except NumeralFault Binary64 :=
  let read (negative : Bool) (cs : List Char) : Except NumeralFault Binary64 :=
    match magnitudeOfChars? negative cs with
    | some x => .ok x
    | none => .error .invalidFloat
  match s.toList with
  | [] => .error .emptyFloat
  | '-' :: cs => read true cs
  | '+' :: cs => read false cs
  | cs => read false cs

end EntityGraph.Number
