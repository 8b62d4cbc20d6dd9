import EntityGraph.Text.Join
import EntityGraph.Number.Numeral
/-!
# Numeric hosts

The numbers that stand for a host between square brackets: eight groups of
hexadecimal digits with colons between them. Two colons stand for one group of
zeros or more, and the last two groups may be written as four decimal numbers
with points between them.
-/

namespace EntityGraph.Bolt.NumericHost

/-- Whether a character is a hexadecimal digit. -/
def isHexDigit (c : Char) : Bool :=
  c.isDigit || ('a' ≤ c && c ≤ 'f') || ('A' ≤ c && c ≤ 'F')

/-- Whether characters are a group of one to four hexadecimal digits. -/
def isGroup (cs : List Char) : Bool :=
  !cs.isEmpty && decide (cs.length ≤ 4) && cs.all isHexDigit

/-- Whether characters are a decimal number below 256 without a needless
zero. -/
def isOctet (cs : List Char) : Bool :=
  match Number.natOfChars? cs with
  | some n => n < 256 && (cs.length == 1 || cs.head? != some '0')
  | none => false

/-- Whether characters are four decimal numbers with points between them. -/
def isDotted (cs : List Char) : Bool :=
  let parts := Text.splitChars '.' cs
  parts.length == 4 && parts.all isOctet

/-- The number of groups that parts stand for. The last part of an address may
be four decimal numbers, which are two groups. -/
def countGroups (isLast : Bool) : List (List Char) → Option Nat
  | [] => some 0
  | [part] =>
    if isGroup part then some 1 else if isLast && isDotted part then some 2 else none
  | part :: parts => if isGroup part then (countGroups isLast parts).map (· + 1) else none

/-- The number of groups on one side of two colons, which may be empty. -/
def countSide (isLast : Bool) (cs : List Char) : Option Nat :=
  if cs.isEmpty then some 0 else countGroups isLast (Text.splitChars ':' cs)

/-- The characters before the first two colons, and those after them. -/
def splitColons : List Char → Option (List Char × List Char)
  | [] => none
  | [_] => none
  | c :: d :: cs =>
    if c == ':' && d == ':' then some ([], cs)
    else (splitColons (d :: cs)).map fun (before, after) => (c :: before, after)

/-- Whether characters stand for a host. -/
def isValid (cs : List Char) : Bool :=
  match splitColons cs with
  | none => countGroups true (Text.splitChars ':' cs) == some 8
  | some (before, after) =>
    match countSide false before, countSide true after with
    | some m, some n => m + n ≤ 7
    | _, _ => false

end EntityGraph.Bolt.NumericHost
