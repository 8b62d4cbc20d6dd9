import EntityGraph.Config.Setting
import EntityGraph.Number.Numeral
import EntityGraph.Time.Civil
/-!
# Scalars of configuration files

The numbers, truth values and times of TOML files, each read from the
characters of its word. Digits may be grouped by underscores between them.
-/

namespace EntityGraph.Config.Toml

open Number (digitValue ofDigits natOfChars?)

/-- The digits of a number without the underscores between them; `isDigit`
says which characters are digits. Each underscore stands between digits. -/
def ungroup (isDigit : Char → Bool) : List Char → Option (List Char)
  | [] => none
  | [d] => if isDigit d then some [d] else none
  | d :: e :: rest =>
    if isDigit d then
      if e == '_' then (ungroup isDigit rest).map (d :: ·)
      else (ungroup isDigit (e :: rest)).map (d :: ·)
    else none

/-- The value of a digit in a base up to sixteen. -/
def baseValue (c : Char) : Nat :=
  if c.isDigit then digitValue c else c.toLower.toNat - 'a'.toNat + 10

/-- Whether a character is a digit in a base up to sixteen. -/
def isBaseDigit (base : Nat) (c : Char) : Bool :=
  (c.isDigit || ('a' ≤ c.toLower && c.toLower ≤ 'f')) && baseValue c < base

/-- An integer that fits a signed 64-bit word. -/
def signed? (n : Int) : Option Setting :=
  if Number.isInt64 n then some (.signed n) else none

/-- A sign, if there is one, and what follows it. -/
def splitSign : List Char → Option Bool × List Char
  | '-' :: cs => (some true, cs)
  | '+' :: cs => (some false, cs)
  | cs => (none, cs)

/-- Whether decimal digits are those of a whole number, which has no zeros in
front. -/
def isWhole (digits : List Char) : Bool :=
  match digits with
  | [] => false
  | '0' :: _ :: _ => false
  | _ => true

/-- A decimal integer after its sign. -/
def decimal? (negative : Bool) (cs : List Char) : Option Setting := do
  let digits ← ungroup Char.isDigit cs
  if !isWhole digits then none
  let n : Int := ofDigits 0 digits
  signed? (if negative then -n else n)

/-- An integer in another base after its two leading characters. -/
def based? (base : Nat) (cs : List Char) : Option Setting := do
  let digits ← ungroup (isBaseDigit base) cs
  signed? (digits.foldl (fun n d => base * n + baseValue d) 0 : Nat)

/-- An integer. -/
def integer? (cs : List Char) : Option Setting :=
  match cs with
  | '0' :: 'x' :: rest => based? 16 rest
  | '0' :: 'o' :: rest => based? 8 rest
  | '0' :: 'b' :: rest => based? 2 rest
  | _ =>
    let (sign, rest) := splitSign cs
    decimal? (sign.getD false) rest

/-- The exponent of a floating-point number after its letter. -/
def exponent? (cs : List Char) : Option Int := do
  let (sign, rest) := splitSign cs
  let digits ← ungroup Char.isDigit rest
  let n : Int := ofDigits 0 digits
  return if sign.getD false then -n else n

/-- A decimal with a fraction, an exponent or both, after its sign. One too
large for a finite number is refused, and one too small is minus infinity. -/
def fractional? (negative : Bool) (cs : List Char) : Option Setting := do
  let isExponent (c : Char) : Bool := c == 'e' || c == 'E'
  let mantissa := cs.takeWhile (!isExponent ·)
  let exponent ←
    match cs.dropWhile (!isExponent ·) with
    | [] => some none
    | _ :: digits => (exponent? digits).map some
  let whole ← ungroup Char.isDigit (mantissa.takeWhile (· != '.'))
  let places ←
    match mantissa.dropWhile (· != '.') with
    | [] => some []
    | _ :: digits => ungroup Char.isDigit digits
  if !isWhole whole || (exponent.isNone && places.isEmpty) then none
  let x := Number.Binary64.ofDecimal negative (ofDigits 0 (whole ++ places))
    (exponent.getD 0 - places.length)
  if x.isFinite || negative then some (.float x) else none

/-- A floating-point number. -/
def float? (cs : List Char) : Option Setting :=
  let (sign, rest) := splitSign cs
  let negative := sign.getD false
  match rest with
  | ['i', 'n', 'f'] => some (.float (.infinity negative))
  | ['n', 'a', 'n'] => some (.float .nan)
  | _ => fractional? negative rest

/-- A number of two digits up to a bound. -/
def twoDigits? (low high : Nat) (cs : List Char) : Option Nat :=
  if cs.length = 2 then
    (natOfChars? cs).filter fun n => low ≤ n && n ≤ high
  else none

/-- Whether characters are a date. -/
def isDate (cs : List Char) : Bool :=
  match natOfChars? (cs.take 4), cs.drop 4 with
  | some year, ['-', m₁, m₂, '-', d₁, d₂] =>
    match twoDigits? 1 12 [m₁, m₂], twoDigits? 1 31 [d₁, d₂] with
    | some month, some day => Time.Date.isValid ⟨year, month, day⟩
    | _, _ => false
  | _, _ => false

/-- What follows a time of day with seconds and perhaps a fraction of them. -/
def afterClock (cs : List Char) : Option (List Char) :=
  match cs with
  | h₁ :: h₂ :: ':' :: m₁ :: m₂ :: ':' :: s₁ :: s₂ :: rest =>
    if (twoDigits? 0 23 [h₁, h₂]).isSome && (twoDigits? 0 59 [m₁, m₂]).isSome
        && (twoDigits? 0 60 [s₁, s₂]).isSome then
      match rest with
      | '.' :: places =>
        if (places.takeWhile Char.isDigit).isEmpty then none
        else some (places.dropWhile Char.isDigit)
      | _ => some rest
    else none
  | _ => none

/-- Whether characters are an offset from universal time, or nothing. -/
def isOffset (cs : List Char) : Bool :=
  match cs with
  | [] | ['Z'] | ['z'] => true
  | [sign, h₁, h₂, ':', m₁, m₂] =>
    (sign == '+' || sign == '-') && (twoDigits? 0 23 [h₁, h₂]).isSome
      && (twoDigits? 0 59 [m₁, m₂]).isSome
  | _ => false

/-- Whether characters are a date, a time of day or both. -/
def isTime (cs : List Char) : Bool :=
  isDate cs || afterClock cs == some []
    || isDate (cs.take 10)
      && match cs.drop 10 with
        | separator :: rest =>
          (separator == 'T' || separator == 't' || separator == ' ')
            && match afterClock rest with
              | some offset => isOffset offset
              | none => false
        | [] => false

/-- The setting that a word stands for. A time is a table of its own sort,
which no setting of this library is read from. -/
def scalar? (cs : List Char) : Option Setting :=
  if cs == "true".toList then some (.bool true)
  else if cs == "false".toList then some (.bool false)
  else if isTime cs then
    some (.table [("$__toml_private_datetime", .text (String.ofList cs))])
  else (integer? cs).or (float? cs)

end EntityGraph.Config.Toml
