import EntityGraph.Time.Civil
import EntityGraph.Number.Numeral
/-!
# Instants

A moment of the universal time line to the nanosecond, and how moments, dates
and times of day are written. A leap second is the second before it with a
full second of nanoseconds more, and is written as second 60.
-/

namespace EntityGraph.Time

open Number (padded)

/-- A moment: whole seconds since the start of 1970 and nanoseconds, at least
a thousand million of them in a leap second. -/
structure Instant where
  seconds : Int
  nanos : Nat
deriving DecidableEq, Repr

/-- The number of nanoseconds in a second. -/
def nanosPerSecond : Nat := 1000000000

/-- The number of seconds in a day. -/
def secondsPerDay : Int := 86400

/-- A year in at least four digits, with a sign unless it is from 0 to
9999. -/
def yearChars (year : Int) : List Char :=
  if 0 ≤ year ∧ year ≤ 9999 then padded 4 year.toNat
  else
    (if year < 0 then '-' else '+') ::
      (if year.natAbs ≤ 9999 then padded 4 year.natAbs else Nat.toDigits 10 year.natAbs)

/-- A date as year, month and day. -/
def Date.toChars (d : Date) : List Char :=
  yearChars d.year ++ '-' :: padded 2 d.month ++ '-' :: padded 2 d.day

/-- A fraction of a second: nothing, or a point and three, six or nine digits,
the fewest that lose nothing. -/
def fractionChars (nanos : Nat) : List Char :=
  if nanos = 0 then []
  else if nanos % 1000000 = 0 then '.' :: padded 3 (nanos / 1000000)
  else if nanos % 1000 = 0 then '.' :: padded 6 (nanos / 1000)
  else '.' :: padded 9 nanos

/-- A time of day as hours, minutes, seconds and a fraction, from the seconds
since midnight and the nanoseconds. -/
def clockChars (seconds nanos : Nat) : List Char :=
  padded 2 (seconds / 3600) ++ ':' :: padded 2 (seconds / 60 % 60) ++ ':'
    :: padded 2 (seconds % 60 + nanos / nanosPerSecond) ++ fractionChars (nanos % nanosPerSecond)

/-- A date and a time of day with `T` between them, of the moment that clocks
show some seconds after the start of 1970. -/
def wallChars (seconds : Int) (nanos : Nat) : List Char :=
  (Date.ofDays (seconds / secondsPerDay)).toChars
    ++ 'T' :: clockChars (seconds % secondsPerDay).toNat nanos

/-- An offset from universal time as hours and minutes, to the nearest
minute. -/
def offsetChars (seconds : Int) : List Char :=
  let minutes := (seconds.natAbs + 30) / 60
  (if seconds < 0 then '-' else '+')
    :: (padded 2 (minutes / 60) ++ ':' :: padded 2 (minutes % 60))

namespace Instant

/-- The start of 1970. -/
def epoch : Instant := ⟨0, 0⟩

/-- A moment as date and time of day in universal time, with the offset
written out. -/
def toText (t : Instant) : String :=
  String.ofList (wallChars t.seconds t.nanos ++ ['+', '0', '0', ':', '0', '0'])

/-- A moment as date and time of day in universal time, with the letter for
no offset. -/
def toZuluText (t : Instant) : String :=
  String.ofList (wallChars t.seconds t.nanos ++ ['Z'])

end Instant

end EntityGraph.Time
