import EntityGraph.Text.Case
/-!
# Names

The names that may stand in a statement, and the name under which a field is
stored when none is given.
-/

namespace EntityGraph

/-- A character that a name may start with. -/
def isNameStart (c : Char) : Bool :=
  c.isAlpha || c == '_'

/-- A character that a name may go on with. -/
def isNameChar (c : Char) : Bool :=
  c.isAlphanum || c == '_'

/-- A name is an ASCII letter or underscore and then letters, digits and
underscores. -/
def isNameChars : List Char → Bool
  | [] => false
  | c :: cs => isNameStart c && cs.all isNameChar

/-- Whether a text is a name. -/
def isName (s : String) : Bool :=
  isNameChars s.toList

/-- A character with every capital split off by an underscore. -/
def snakeChar (c : Char) : List Char :=
  if Text.isCapital c then '_' :: Text.lowerChar c else [c]

/-- Characters in snake case; the first one gets no underscore. -/
def snakeChars : List Char → List Char
  | [] => []
  | c :: cs => (if Text.isCapital c then Text.lowerChar c else [c]) ++ cs.flatMap snakeChar

/-- A text in snake case: small letters, with an underscore before each that
was a capital. -/
def snakeCase (s : String) : String :=
  String.ofList (snakeChars s.toList)

end EntityGraph
