import EntityGraph.Time.Instant
import EntityGraph.Text.Blank
/-!
# Reading timestamps

A timestamp is read in its strict form, with an offset from universal time,
or else in one of four lenient forms that name none and are taken as universal
time. A lenient form is a list of pieces, read one after another; before each
number and at each gap there may be white space. What follows an opening
bracket names a time zone and is not read.
-/

namespace EntityGraph.Time

open Number (digitValue ofDigits)
open Text (dropBlanks trimChars)

/-- The fields of a timestamp as they are written; those not written are
zero, or one for a month and a day. -/
structure Fields where
  year : Int := 0
  month : Nat := 1
  day : Nat := 1
  hour : Nat := 0
  minute : Nat := 0
  second : Nat := 0
  nanos : Nat := 0
deriving DecidableEq, Repr

/-- The date of the fields. -/
def Fields.date (f : Fields) : Date :=
  ⟨f.year, f.month, f.day⟩

/-- The fields name a moment when their date is one of the calendar and their
time of day is on the clock, which has a second 60. -/
def Fields.isValid (f : Fields) : Bool :=
  f.date.isValid && decide (f.hour ≤ 23) && decide (f.minute ≤ 59) && decide (f.second ≤ 60)

/-- The moment that the fields name when clocks are `offset` seconds ahead of
universal time. -/
def Fields.toInstant (f : Fields) (offset : Int) : Instant where
  seconds :=
    secondsPerDay * f.date.toDays + (3600 * f.hour + 60 * f.minute + min f.second 59 : Nat) - offset
  nanos := f.nanos + if f.second = 60 then nanosPerSecond else 0

/-- Splits off the leading digits, `max` at most. -/
def spanDigits : Nat → List Char → List Char × List Char
  | 0, cs => ([], cs)
  | _ + 1, [] => ([], [])
  | max + 1, c :: cs =>
    if c.isDigit then
      let (ds, rest) := spanDigits max cs
      (c :: ds, rest)
    else ([], c :: cs)

/-- Reads a number of one to `max` digits. -/
def number? (max : Nat) (cs : List Char) : Option (Nat × List Char) :=
  let (ds, rest) := spanDigits max cs
  if ds.isEmpty then none else some (ofDigits 0 ds, rest)

/-- Reads a number of exactly `width` digits. -/
def exactly? (width : Nat) (cs : List Char) : Option (Nat × List Char) :=
  let (ds, rest) := spanDigits width cs
  if ds.length = width then some (ofDigits 0 ds, rest) else none

/-- Reads a given character. -/
def char? (c : Char) : List Char → Option (List Char)
  | d :: cs => if d == c then some cs else none
  | [] => none

/-- Reads a fraction of a second: nothing, or a point and digits, of which
those after the ninth do not count. -/
def fraction? : List Char → Option (Nat × List Char)
  | '.' :: cs =>
    let (ds, rest) := spanDigits 9 cs
    if ds.isEmpty then none
    else some (ofDigits 0 ds * Nat.pow 10 (9 - ds.length), rest.dropWhile Char.isDigit)
  | cs => some (0, cs)

/-- Reads an offset of less than a day from universal time, in seconds: the
letter for none, or a sign, hours and minutes. The minus sign proper is a
minus too. -/
def offset? : List Char → Option (Int × List Char)
  | [] => none
  | c :: cs =>
    if c == 'Z' || c == 'z' then some (0, cs)
    else if c == '+' || c == '-' || c == '−' then do
      let (hours, cs) ← exactly? 2 cs
      let cs ← char? ':' cs
      let (minutes, cs) ← exactly? 2 cs
      if hours ≤ 23 ∧ minutes ≤ 59 then
        let seconds : Int := (3600 * hours + 60 * minutes : Nat)
        some (if c == '+' then seconds else -seconds, cs)
      else none
    else none

/-- Reads the strict form: a date and a time of day in fields of fixed width,
a letter T or a space between them, and an offset. -/
def strict? (cs : List Char) : Option Instant := do
  let (year, cs) ← exactly? 4 cs
  let cs ← char? '-' cs
  let (month, cs) ← exactly? 2 cs
  let cs ← char? '-' cs
  let (day, cs) ← exactly? 2 cs
  let cs ← char? 'T' cs <|> char? 't' cs <|> char? ' ' cs
  let (hour, cs) ← exactly? 2 cs
  let cs ← char? ':' cs
  let (minute, cs) ← exactly? 2 cs
  let cs ← char? ':' cs
  let (second, cs) ← exactly? 2 cs
  let (nanos, cs) ← fraction? cs
  let (offset, cs) ← offset? cs
  let fields : Fields := { year, month, day, hour, minute, second, nanos }
  if cs.isEmpty ∧ fields.isValid then some (fields.toInstant offset) else none

/-- A piece of a lenient form. -/
inductive Piece where
  | year
  | month
  | day
  | hour
  | minute
  | second
  | fraction
  | gap
  | letter (c : Char)
deriving DecidableEq, Repr

/-- Reads a year: up to four digits, or a sign and any number of digits. -/
def year? (cs : List Char) : Option (Int × List Char) :=
  match dropBlanks cs with
  | '-' :: cs => (number? cs.length cs).map fun (n, rest) => (-(n : Int), rest)
  | '+' :: cs => (number? cs.length cs).map fun (n, rest) => ((n : Int), rest)
  | cs => (number? 4 cs).map fun (n, rest) => ((n : Int), rest)

/-- Reads a piece into the fields. -/
def Piece.read? (piece : Piece) (f : Fields) (cs : List Char) : Option (Fields × List Char) :=
  let two (put : Nat → Fields) := (number? 2 (dropBlanks cs)).map fun (n, rest) => (put n, rest)
  match piece with
  | .year => (year? cs).map fun (n, rest) => ({ f with year := n }, rest)
  | .month => two fun n => { f with month := n }
  | .day => two fun n => { f with day := n }
  | .hour => two fun n => { f with hour := n }
  | .minute => two fun n => { f with minute := n }
  | .second => two fun n => { f with second := n }
  | .fraction => (fraction? cs).map fun (n, rest) => ({ f with nanos := n }, rest)
  | .gap => some (f, dropBlanks cs)
  | .letter c => (char? c cs).map fun rest => (f, rest)

/-- Reads pieces one after another up to the end of the text. -/
def readPieces? : List Piece → Fields → List Char → Option Fields
  | [], f, cs => if cs.isEmpty then some f else none
  | piece :: pieces, f, cs =>
    match piece.read? f cs with
    | some (f, rest) => readPieces? pieces f rest
    | none => none

/-- The pieces of a bare date. -/
def datePieces : List Piece :=
  [.year, .letter '-', .month, .letter '-', .day]

/-- The pieces of hours and minutes. -/
def minutePieces : List Piece :=
  [.hour, .letter ':', .minute]

/-- The pieces of a time of day. -/
def clockPieces : List Piece :=
  minutePieces ++ [.letter ':', .second, .fraction]

/-- The lenient forms, in the order in which they are tried. -/
def lenientForms : List (List Piece) :=
  [datePieces ++ .letter 'T' :: clockPieces,
   datePieces ++ .gap :: clockPieces,
   datePieces ++ .letter 'T' :: minutePieces,
   datePieces]

/-- The years that a lenient form may name. -/
def isLenientYear (year : Int) : Bool :=
  decide (-262143 ≤ year) && decide (year ≤ 262142)

/-- Reads one lenient form. -/
def lenient? (cs : List Char) (pieces : List Piece) : Option Instant := do
  let f ← readPieces? pieces {} cs
  if isLenientYear f.year ∧ f.isValid then some (f.toInstant 0) else none

/-- The part of a timestamp that is read: without white space at its ends, and
up to the bracket that opens the name of a time zone. -/
def stampChars (text : String) : List Char :=
  (trimChars text.toList).takeWhile (· != '[')

/-- Reads a timestamp in the strict form or else the first lenient form that
fits. -/
def Instant.read? (text : String) : Option Instant :=
  let cs := stampChars text
  strict? cs <|> lenientForms.findSome? (lenient? cs)

end EntityGraph.Time
