import EntityGraph.Json.Basic
import EntityGraph.Number.Numeral
/-!
# Reading JSON

JSON values from their texts. A number without point and exponent that fits a
64-bit word, signed or unsigned, is an integer; every other number is
floating-point. A decimal is read as a whole number times or over a power of
ten, each of the three rounded by itself.
-/

namespace EntityGraph

open Number (Binary64 digitValue ofDigits)

namespace Json

/-- The characters without the blanks that may stand between tokens. -/
def skipBlanks (cs : List Char) : List Char :=
  cs.dropWhile fun c => c == ' ' || c == '\t' || c == '\n' || c == '\r'

/-! ### Numbers -/

/-- Puts digits behind a number as long as the result fits an unsigned 64-bit
word, and gives it with the digits that are left. -/
def takeDigits (n : Nat) : List Char → Nat × List Char
  | [] => (n, [])
  | d :: ds =>
    if 10 * n + digitValue d < Nat.pow 2 64 then takeDigits (10 * n + digitValue d) ds else (n, d :: ds)

/-- A power of ten. -/
def powerOfTen (exponent : Nat) : Binary64 :=
  .ofDecimal false 1 exponent

/-- A number below `2 ^ 64` times a power of ten. Far below the smallest number
the power is taken in two steps, after which nothing but zero is left. -/
def scaleByTen (x : Binary64) (exponent : Int) : Binary64 :=
  if 308 < exponent then .infinity false
  else if 0 ≤ exponent then x.times (powerOfTen exponent.toNat)
  else if -308 ≤ exponent then x.dividedBy (powerOfTen exponent.natAbs)
  else if -616 ≤ exponent then
    (x.dividedBy (powerOfTen 308)).dividedBy (powerOfTen (exponent + 308).natAbs)
  else .zero

/-- The digits of a fraction after its point, if there is one, and what
follows. -/
def splitFraction : List Char → Option (List Char) × List Char
  | '.' :: cs => (some (cs.takeWhile Char.isDigit), cs.dropWhile Char.isDigit)
  | cs => (none, cs)

/-- The exponent after its letter, if there is one, and what follows. -/
def splitExponent : List Char → Option Int × List Char
  | [] => (none, [])
  | c :: cs =>
    if c == 'e' || c == 'E' then
      let (negative, digits) :=
        match cs with
        | '-' :: ds => (true, ds)
        | '+' :: ds => (false, ds)
        | ds => (false, ds)
      let n : Int := ofDigits 0 (digits.takeWhile Char.isDigit)
      (some (if negative then -n else n), digits.dropWhile Char.isDigit)
    else (none, c :: cs)

/-- The number of a sign, the digits before the point, those after it, and an
exponent. -/
def numberOf (negative : Bool) (whole : List Char) (fraction : Option (List Char))
    (exponent : Option Int) : Json :=
  let (n, left) := takeDigits 0 whole
  let toFloat (m : Nat) (e : Int) : Json :=
    let x := scaleByTen (.ofInt m) e
    float (if negative then x.neg else x)
  if fraction.isSome || exponent.isSome || !left.isEmpty then
    -- Digits that no longer fit are dropped; before the point each counts as a place.
    let places := fraction.getD []
    let (m, dropped) := takeDigits n places
    toFloat m (exponent.getD 0 + left.length - (places.length - dropped.length : Nat))
  -- There is no negative zero and no such large negative number among the integers.
  else if negative && (n == 0 || Nat.pow 2 63 < n) then toFloat n 0
  else int (if negative then -(n : Int) else n)

/-- A number at the front, and what follows it. -/
def readNumber (cs : List Char) : Option (Json × List Char) :=
  let (negative, cs) :=
    match cs with
    | '-' :: rest => (true, rest)
    | rest => (false, rest)
  let whole := cs.takeWhile Char.isDigit
  let (fraction, afterFraction) := splitFraction (cs.dropWhile Char.isDigit)
  let (exponent, rest) := splitExponent afterFraction
  if whole.isEmpty then none else some (numberOf negative whole fraction exponent, rest)

/-! ### Texts -/

/-- The value of a hexadecimal digit. -/
def hexValue (c : Char) : Nat :=
  if c.isDigit then digitValue c else c.toLower.toNat - 'a'.toNat + 10

/-- The value of four hexadecimal digits. -/
def unitOf (a b c d : Char) : Nat :=
  ((hexValue a * 16 + hexValue b) * 16 + hexValue c) * 16 + hexValue d

/-- The character that a backslash and a letter stand for. -/
def unescape (c : Char) : Char :=
  if c == 'n' then '\n'
  else if c == 't' then '\t'
  else if c == 'r' then '\r'
  else if c == 'b' then '\x08'
  else if c == 'f' then '\x0c'
  else c

/-- The code points, and the halves of those that are written in two, up to the
closing quote, and what follows it. -/
def scanUnits : List Char → Option (List Nat × List Char)
  | [] => none
  | '"' :: cs => some ([], cs)
  | '\\' :: 'u' :: a :: b :: c :: d :: cs =>
    (scanUnits cs).map fun (units, rest) => (unitOf a b c d :: units, rest)
  | '\\' :: c :: cs => (scanUnits cs).map fun (units, rest) => ((unescape c).toNat :: units, rest)
  | c :: cs => (scanUnits cs).map fun (units, rest) => (c.toNat :: units, rest)

/-- The characters of code points, with halves put together. -/
def joinUnits : List Nat → List Char
  | [] => []
  | [u] => [Char.ofNat u]
  | u :: v :: units =>
    if 0xD800 ≤ u && u < 0xDC00 then
      Char.ofNat (0x10000 + (u - 0xD800) * 0x400 + (v - 0xDC00)) :: joinUnits units
    else Char.ofNat u :: joinUnits (v :: units)

/-- A text after its opening quote, and what follows it. -/
def readText (cs : List Char) : Option (String × List Char) :=
  (scanUnits cs).map fun (units, rest) => (String.ofList (joinUnits units), rest)

/-! ### Values -/

mutual

/-- A value at the front, and what follows it. Values are nested at most `depth`
deep and have at most `depth` items. -/
def readValue (depth : Nat) (cs : List Char) : Option (Json × List Char) :=
  match depth with
  | 0 => none
  | depth + 1 =>
    match skipBlanks cs with
    | 'n' :: 'u' :: 'l' :: 'l' :: rest => some (null, rest)
    | 't' :: 'r' :: 'u' :: 'e' :: rest => some (bool true, rest)
    | 'f' :: 'a' :: 'l' :: 's' :: 'e' :: rest => some (bool false, rest)
    | '"' :: rest => (readText rest).map fun (s, rest) => (str s, rest)
    | '[' :: rest => (readItems depth rest).map fun (items, rest) => (arr items, rest)
    | '\x7b' :: rest =>
      (readMembers depth rest).map fun (members, rest) => (ofBag (.ofList members), rest)
    | rest => readNumber rest

/-- The items of a list up to its closing bracket, and what follows it. -/
def readItems (depth : Nat) (cs : List Char) : Option (List Json × List Char) :=
  match depth with
  | 0 => none
  | depth + 1 =>
    match skipBlanks cs with
    | ']' :: rest => some ([], rest)
    | ',' :: rest => readItems depth rest
    | rest => do
      let (item, rest) ← readValue depth rest
      let (items, rest) ← readItems depth rest
      return (item :: items, rest)

/-- The members of an object up to its closing brace, and what follows it. -/
def readMembers (depth : Nat) (cs : List Char) : Option (List (String × Json) × List Char) :=
  match depth with
  | 0 => none
  | depth + 1 =>
    match skipBlanks cs with
    | '\x7d' :: rest => some ([], rest)
    | ',' :: rest => readMembers depth rest
    | '"' :: rest => do
      let (key, rest) ← readText rest
      let ':' :: rest := skipBlanks rest | none
      let (value, rest) ← readValue depth rest
      let (members, rest) ← readMembers depth rest
      return ((key, value) :: members, rest)
    | _ => none

end

/-- The value that a text holds, if it holds one and nothing else. Commas
between items and members may be missing or repeated. -/
def read? (text : String) : Option Json :=
  match readValue (text.length + 1) text.toList with
  | some (value, rest) => if (skipBlanks rest).isEmpty then some value else none
  | none => none

end Json

end EntityGraph
