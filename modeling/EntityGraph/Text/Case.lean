import EntityGraph.Text.CaseTable
/-!
# Letter case

Small letters of texts and of single characters, and equality of texts up to
the case of ASCII letters. A capital sigma at the end of a word has a small
letter of its own, so the small letters of a text are more than those of its
characters one by one.
-/

namespace EntityGraph.Text

/-- A character is a capital when it has the Unicode property Uppercase. -/
def isCapital (c : Char) : Bool :=
  if c.toNat < 128 then c.isUpper else Run.anyContains CaseTable.capitals c.toNat

/-- The small letter of a character by itself; one capital, the dotted I, has
two code points as its small letter. -/
def lowerChar (c : Char) : List Char :=
  if c.toNat < 128 then [c.toLower]
  else if c == '\u0130' then ['i', '\u0307']
  else
    match CaseTable.lowerOffsets.find? (·.1.contains c.toNat) with
    | some (_, offset) => [Char.ofNat (Int.toNat (c.toNat + offset))]
    | none => [c]

/-- A character that the search for a neighbour with case passes over. -/
def isCaseIgnorable (c : Char) : Bool :=
  Run.anyContains CaseTable.caseIgnorable c.toNat

/-- A character that has case. -/
def isCased (c : Char) : Bool :=
  Run.anyContains CaseTable.cased c.toNat

/-- Whether the first character that is not passed over has case. -/
def startsCased (cs : List Char) : Bool :=
  match cs.dropWhile isCaseIgnorable with
  | c :: _ => isCased c
  | [] => false

/-- A capital sigma stands at the end of a word when a letter goes before it
and none follows; `before` holds the characters before it, nearest first. -/
def isFinalSigma (before after : List Char) : Bool :=
  startsCased before && !startsCased after

/-- The small letters of `cs`, which the characters `before` precede, nearest
first. -/
def lowerAfter (before : List Char) : List Char → List Char
  | [] => []
  | c :: cs =>
    (if c == 'Σ' then [if isFinalSigma before cs then 'ς' else 'σ'] else lowerChar c)
      ++ lowerAfter (c :: before) cs

/-- A text in small letters. -/
def lower (s : String) : String :=
  String.ofList (lowerAfter [] s.toList)

/-- A text with its ASCII capitals made small. -/
def lowerAscii (s : String) : String :=
  String.ofList (s.toList.map Char.toLower)

/-- A text with its ASCII small letters made capitals. -/
def upperAscii (s : String) : String :=
  String.ofList (s.toList.map Char.toUpper)

/-- Two texts are the same up to the case of ASCII letters. -/
def eqIgnoringCase (s t : String) : Bool :=
  s.toList.map Char.toLower == t.toList.map Char.toLower

end EntityGraph.Text
