import EntityGraph.Config.Escape
import EntityGraph.Config.Setting
import EntityGraph.Text.Blank
import EntityGraph.Text.Case
import EntityGraph.Text.Join
/-!
# Environment variables

The settings that environment variables hold. The name of a variable says
which key it is for, and its value is read as a truth value, a number, a
quoted text, a list or a table where it has that form; anything else is text.
-/

namespace EntityGraph.Config.Variable

/-! ### Names -/

/-- What the names of all variables of this library begin with. -/
def start : String := "GRAPHMAP_"

/-- The characters with a point for each two underscores. -/
def joinUnderscores : List Char → List Char
  | [] => []
  | '_' :: '_' :: cs => '.' :: joinUnderscores cs
  | c :: cs => c :: joinUnderscores cs

/-- The path of keys that the name of a variable leads to, if it is one of
this library's. Case makes no difference. -/
def path? (name : String) : Option (List String) := do
  let chars := (Text.trimChars name.toList).map Char.toLower
  let rest ← Text.dropStart? (Text.lowerAscii start).toList chars
  let keys := Text.splitChars '.' (Text.trimChars (joinUnderscores rest))
  if keys.any List.isEmpty then none else some (keys.map String.ofList)

/-! ### Values -/

/-- Whether a character is a blank between the parts of a value. -/
def isGap (c : Char) : Bool :=
  c == ' ' || c == '\t' || c == '\n' || c == '\r' || c == '\x0c'

/-- The characters after the blanks at the front. -/
def skipGap (cs : List Char) : List Char :=
  cs.dropWhile isGap

/-- Whether a character ends a plain word. -/
def endsWord (c : Char) : Bool :=
  c == ',' || c == '\x7b' || c == '\x7d' || c == '[' || c == ']'

/-- Whether a character may stand in a key without quotes. -/
def isKeyChar (c : Char) : Bool :=
  c.isAlphanum || c == '_' || c == '-'

/-- What a word without quotes and brackets stands for. A number with a point
is floating-point. -/
def plain (word : String) : Setting :=
  let integer : Setting :=
    match Number.readWord64 word, Number.readInt64 word with
    | .ok n, _ => .unsigned n
    | _, .ok n => .signed n
    | _, _ => .text word
  if word.toList.contains '.' then
    match Number.readFloat word with
    | .ok x => .float x
    | .error _ => integer
  else integer

/-- A text after its opening quote, and what follows it. -/
def readQuoted (cs : List Char) : Option (String × List Char) := do
  let (body, rest) ← splitQuoted '"' true cs
  return (String.ofList (← unescape false body), rest)

/-- A key at the front, and what follows it. -/
def readKey (cs : List Char) : Option (String × List Char) :=
  match cs with
  | '"' :: rest => readQuoted rest
  | _ =>
    if (cs.takeWhile isKeyChar).isEmpty then none
    else some (String.ofList (cs.takeWhile isKeyChar), cs.dropWhile isKeyChar)

/-- A word at the front, and what follows it. -/
def readPlain (cs : List Char) : Setting × List Char :=
  (plain (String.ofList (Text.trimChars (cs.takeWhile (!endsWord ·)))), cs.dropWhile (!endsWord ·))

mutual

/-- A value at the front, and what follows it and the blanks after it. Values
are nested at most `depth` deep and have at most `depth` items. -/
def readValue (depth : Nat) (cs : List Char) : Option (Setting × List Char) :=
  match depth with
  | 0 => none
  | depth + 1 =>
    let front : Option (Setting × List Char) :=
      match skipGap cs with
      | 't' :: 'r' :: 'u' :: 'e' :: rest => some (.bool true, rest)
      | 'f' :: 'a' :: 'l' :: 's' :: 'e' :: rest => some (.bool false, rest)
      | '\x7b' :: rest =>
        (readPairs depth rest).map fun (pairs, rest) =>
          (.table (pairs.foldl (fun table pair => insertSorted pair.1 pair.2 table) []), rest)
      | '[' :: rest => (readItems depth rest).map fun (items, rest) => (.list items, rest)
      | '"' :: rest => (readQuoted rest).map fun (s, rest) => (.text s, rest)
      | '\'' :: c :: '\'' :: rest => some (.text (String.singleton c), rest)
      | '\'' :: _ => none
      | rest => some (readPlain rest)
    front.map fun (value, rest) => (value, skipGap rest)

/-- The items of a list up to its closing bracket, and what follows it. A comma
may stand after the last item. -/
def readItems (depth : Nat) (cs : List Char) : Option (List Setting × List Char) :=
  match depth with
  | 0 => none
  | depth + 1 =>
    match cs with
    | ']' :: rest => some ([], rest)
    | _ => do
      let (item, rest) ← readValue depth cs
      match rest with
      | ',' :: rest =>
        let (items, rest) ← readItems depth rest
        return (item :: items, rest)
      | ']' :: rest => return ([item], rest)
      | _ => none

/-- The pairs of a table up to its closing brace, and what follows it. A comma
may stand after the last pair. -/
def readPairs (depth : Nat) (cs : List Char) : Option (Table × List Char) :=
  match depth with
  | 0 => none
  | depth + 1 =>
    match cs with
    | '\x7d' :: rest => some ([], rest)
    | _ => do
      let (key, rest) ← readKey (skipGap cs)
      let '=' :: rest := skipGap rest | none
      let (value, rest) ← readValue depth rest
      match rest with
      | ',' :: rest =>
        let (pairs, rest) ← readPairs depth rest
        return ((key, value) :: pairs, rest)
      | '\x7d' :: rest => return ([(key, value)], rest)
      | _ => none

end

/-- The setting that the value of a variable stands for: the text itself when it
has no other form. -/
def read (value : String) : Setting :=
  let text := Text.trim value
  match readValue (2 * text.length + 2) text.toList with
  | some (setting, []) => setting
  | _ => .text text

/-! ### Layers -/

/-- The table that has a setting under a path of keys and nothing else. -/
def nest (setting : Setting) : List String → Setting
  | [] => setting
  | key :: path => .table [(key, nest setting path)]

/-- The settings of some variables; each is laid over those before it. -/
def table (environment : List (String × String)) : Table :=
  environment.foldl (fun below entry =>
    match path? entry.1 with
    | some path => Setting.layTable below (Setting.members (some (nest (read entry.2) path)))
    | none => below) []

end EntityGraph.Config.Variable
