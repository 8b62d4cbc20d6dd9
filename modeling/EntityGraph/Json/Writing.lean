import EntityGraph.Json.Basic
import EntityGraph.Number.Shortest
import EntityGraph.Text.Join
/-!
# Written JSON

The two writings of a JSON value: on one line without spaces, and over several
lines with two spaces for each level. Members are written in the order the
object lists them.
-/

namespace EntityGraph

namespace Json

/-- The two last digits of the escape of a control character. -/
def hexPair (n : Nat) : List Char :=
  [Nat.digitChar (n / 16), Nat.digitChar (n % 16)]

/-- A character inside quotes: quotes, backslashes and control characters are
escaped and all else stands as it is. -/
def quotedChar (c : Char) : List Char :=
  if c == '"' then ['\\', '"']
  else if c == '\\' then ['\\', '\\']
  else if c == '\x08' then ['\\', 'b']
  else if c == '\x0c' then ['\\', 'f']
  else if c == '\n' then ['\\', 'n']
  else if c == '\r' then ['\\', 'r']
  else if c == '\t' then ['\\', 't']
  else if c.toNat < 32 then '\\' :: 'u' :: '0' :: '0' :: hexPair c.toNat
  else [c]

/-- A text in quotes. -/
def quoted (s : String) : String :=
  String.ofList ('"' :: (s.toList.flatMap quotedChar ++ ['"']))

mutual

/-- A value on one line, without spaces. -/
def compact : Json → String
  | null => "null"
  | bool b => if b then "true" else "false"
  | int n => toString n
  | float x => x.toText
  | str s => quoted s
  | arr items => "[" ++ compactItems items ++ "]"
  | obj members => "\x7b" ++ compactMembers members ++ "\x7d"

/-- The items of an array with commas between them. -/
def compactItems : List Json → String
  | [] => ""
  | [item] => compact item
  | item :: next :: rest => compact item ++ "," ++ compactItems (next :: rest)

/-- The members of an object with commas between them. -/
def compactMembers : List (String × Json) → String
  | [] => ""
  | [(key, value)] => quoted key ++ ":" ++ compact value
  | (key, value) :: next :: rest =>
    quoted key ++ ":" ++ compact value ++ "," ++ compactMembers (next :: rest)

end

/-- A line break and the indentation of a level. -/
def newline (level : Nat) : String :=
  String.ofList ('\n' :: List.replicate (2 * level) ' ')

mutual

/-- A value over several lines, its items and members indented one level
deeper than `level`; an empty array or object stays on its line. -/
def prettyAt (level : Nat) : Json → String
  | arr (item :: rest) => "[" ++ prettyItems level (item :: rest) ++ newline level ++ "]"
  | obj (member :: rest) =>
    "\x7b" ++ prettyMembers level (member :: rest) ++ newline level ++ "\x7d"
  | arr [] => "[]"
  | obj [] => "\x7b\x7d"
  | null => "null"
  | bool b => if b then "true" else "false"
  | int n => toString n
  | float x => x.toText
  | str s => quoted s

/-- The items of an array, each on lines of its own. -/
def prettyItems (level : Nat) : List Json → String
  | [] => ""
  | [item] => newline (level + 1) ++ prettyAt (level + 1) item
  | item :: next :: rest =>
    newline (level + 1) ++ prettyAt (level + 1) item ++ "," ++ prettyItems level (next :: rest)

/-- The members of an object, each on lines of its own. -/
def prettyMembers (level : Nat) : List (String × Json) → String
  | [] => ""
  | [(key, value)] => newline (level + 1) ++ quoted key ++ ": " ++ prettyAt (level + 1) value
  | (key, value) :: next :: rest =>
    newline (level + 1) ++ quoted key ++ ": " ++ prettyAt (level + 1) value ++ ","
      ++ prettyMembers level (next :: rest)

end

/-- A value over several lines. -/
def pretty (j : Json) : String :=
  prettyAt 0 j

end Json

end EntityGraph
