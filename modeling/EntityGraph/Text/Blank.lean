/-!
# Blank text

Which characters are white space, and what is left of a text without the white
space at its ends. A text is blank when nothing is left.
-/

namespace EntityGraph.Text

/-- The characters with the Unicode property White_Space. -/
def isBlankChar (c : Char) : Bool :=
  c == ' ' || (decide ('\t' ≤ c) && decide (c ≤ '\r')) || c == '\u0085' || c == '\u00a0'
    || c == '\u1680' || (decide ('\u2000' ≤ c) && decide (c ≤ '\u200a')) || c == '\u2028'
    || c == '\u2029' || c == '\u202f' || c == '\u205f' || c == '\u3000'

/-- The characters without the blank ones at the front. -/
def dropBlanks (cs : List Char) : List Char :=
  cs.dropWhile isBlankChar

/-- The characters without the blank ones at either end. -/
def trimChars (cs : List Char) : List Char :=
  (dropBlanks (dropBlanks cs).reverse).reverse

/-- A text without the white space at its ends. -/
def trim (s : String) : String :=
  String.ofList (trimChars s.toList)

/-- A text is blank when it holds nothing but white space. -/
def isBlank (s : String) : Bool :=
  s.toList.all isBlankChar

end EntityGraph.Text
