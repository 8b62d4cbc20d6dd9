import EntityGraph.Config.Escape
import EntityGraph.Config.Toml.Scalar
import EntityGraph.Config.Toml.Tree
/-!
# Configuration files

The settings of a TOML file. A file is read line by line: a header says which
table the lines after it belong to, and each of these puts a value under a
dotted key of that table. A file with a fault anywhere holds no settings.
-/

namespace EntityGraph.Config.Toml

/-! ### Blanks, comments and line ends -/

/-- The characters after the blanks of a line. -/
def skipBlanks (cs : List Char) : List Char :=
  cs.dropWhile fun c => c == ' ' || c == '\t'

/-- The characters from the end of the line, or from the next token of it; a
comment takes the rest of its line. -/
def skipComment (cs : List Char) : Option (List Char) :=
  match skipBlanks cs with
  | '#' :: body =>
    if (body.takeWhile (· != '\n')).all standsForItself then some (body.dropWhile (· != '\n'))
    else none
  | rest => some rest

/-- What follows the line, which holds no more tokens. -/
def endLine (cs : List Char) : Option (List Char) :=
  match skipComment cs with
  | some [] => some []
  | some ('\n' :: rest) => some rest
  | _ => none

/-- The next token at most some lines further down. -/
def skipLines (lines : Nat) (cs : List Char) : Option (List Char) :=
  match lines with
  | 0 => none
  | lines + 1 =>
    match skipComment cs with
    | some ('\n' :: rest) => skipLines lines rest
    | rest => rest

/-- The next token, on this line or a later one. -/
def skipGap (cs : List Char) : Option (List Char) :=
  skipLines (cs.length + 1) cs

/-! ### Quoted texts -/

/-- The characters up to three closing quotes, and what follows them. Of up to
five quotes in a row the last three close the text. -/
def splitQuotedLines (quote : Char) (escapes : Bool) :
    List Char → Option (List Char × List Char)
  | [] => none
  | c :: cs =>
    if c == quote && cs.take 2 == [quote, quote] then
      let extra := (((cs.drop 2).take 2).takeWhile (· == quote)).length
      some (List.replicate extra quote, cs.drop (2 + extra))
    else if escapes && c == '\\' then
      match cs with
      | [] => none
      | d :: cs =>
        (splitQuotedLines quote escapes cs).map fun (body, rest) => (c :: d :: body, rest)
    else (splitQuotedLines quote escapes cs).map fun (body, rest) => (c :: body, rest)

/-- The text that the characters between quotes stand for. -/
def textOf (severalLines escapes : Bool) (body : List Char) : Option String :=
  if escapes then (unescape severalLines body).map String.ofList
  else if body.all fun c => standsForItself c || (severalLines && c == '\n') then
    some (String.ofList body)
  else none

/-- A text of one line after its opening quote, and what follows it. -/
def readQuoted (quote : Char) (cs : List Char) : Option (String × List Char) := do
  let escapes := quote == '"'
  let (body, rest) ← splitQuoted quote escapes cs
  return (← textOf false escapes body, rest)

/-- A text of several lines after its three opening quotes, and what follows
it. A line break right after the quotes is left out. -/
def readQuotedLines (quote : Char) (cs : List Char) : Option (String × List Char) := do
  let escapes := quote == '"'
  let cs :=
    match cs with
    | '\n' :: rest => rest
    | rest => rest
  let (body, rest) ← splitQuotedLines quote escapes cs
  return (← textOf true escapes body, rest)

/-! ### Keys -/

/-- Whether a character may stand in a key without quotes. -/
def isBare (c : Char) : Bool :=
  c.isAlphanum || c == '-' || c == '_'

/-- One part of a key, and what follows it. -/
def readKey (cs : List Char) : Option (String × List Char) :=
  match cs with
  | '"' :: rest => readQuoted '"' rest
  | '\'' :: rest => readQuoted '\'' rest
  | _ =>
    if (cs.takeWhile isBare).isEmpty then none
    else some (String.ofList (cs.takeWhile isBare), cs.dropWhile isBare)

/-- The parts of a dotted key, at most `length` of them, and what follows
them. -/
def readParts (length : Nat) (cs : List Char) : Option (List String × List Char) :=
  match length with
  | 0 => none
  | length + 1 => do
    let (key, rest) ← readKey (skipBlanks cs)
    match skipBlanks rest with
    | '.' :: rest =>
      let (path, rest) ← readParts length rest
      return (key :: path, rest)
    | rest => return ([key], rest)

/-- How deep lists and tables may be nested, and how many parts a key may
have. -/
def nestingLimit : Nat := 79

/-- A dotted key, and what follows it. -/
def readPath (cs : List Char) : Option (List String × List Char) :=
  readParts nestingLimit cs

/-! ### Values -/

/-- Whether a character may stand in a scalar. -/
def isScalarChar (c : Char) : Bool :=
  isBare c || c == '+' || c == '.' || c == ':'

/-- A scalar, and what follows it. The time of day may stand one blank after
its date. -/
def readScalar (cs : List Char) : Option (Setting × List Char) :=
  let word := cs.takeWhile isScalarChar
  let rest := cs.dropWhile isScalarChar
  match rest with
  | ' ' :: d :: more =>
    if isDate word && d.isDigit then
      let clock := (d :: more).takeWhile isScalarChar
      (scalar? (word ++ ' ' :: clock)).map (·, (d :: more).dropWhile isScalarChar)
    else (scalar? word).map (·, rest)
  | _ => (scalar? word).map (·, rest)

mutual

/-- A value at the front, and what follows it. Lists and tables are nested at
most `nesting` deep; a `fuel` above the number of characters is enough. -/
def readValue (fuel nesting : Nat) (cs : List Char) : Option (Setting × List Char) :=
  match fuel with
  | 0 => none
  | fuel + 1 =>
    match cs, nesting with
    | '"' :: '"' :: '"' :: rest, _ =>
      (readQuotedLines '"' rest).map fun (s, rest) => (.text s, rest)
    | '\'' :: '\'' :: '\'' :: rest, _ =>
      (readQuotedLines '\'' rest).map fun (s, rest) => (.text s, rest)
    | '"' :: rest, _ => (readQuoted '"' rest).map fun (s, rest) => (.text s, rest)
    | '\'' :: rest, _ => (readQuoted '\'' rest).map fun (s, rest) => (.text s, rest)
    | '[' :: _, 0 => none
    | '\x7b' :: _, 0 => none
    | '[' :: rest, nesting + 1 =>
      (readItems fuel nesting rest).map fun (items, rest) => (.list items, rest)
    | '\x7b' :: rest, nesting + 1 =>
      match skipBlanks rest with
      | '\x7d' :: rest => some (.table [], rest)
      | rest =>
        (readPairs fuel nesting [] rest).map fun (branches, rest) =>
          (.table (toTable branches), rest)
    | rest, _ => readScalar rest

/-- The items of a list up to its closing bracket, and what follows it. A comma
may stand after the last item. -/
def readItems (fuel nesting : Nat) (cs : List Char) : Option (List Setting × List Char) :=
  match fuel with
  | 0 => none
  | fuel + 1 => do
    match ← skipGap cs with
    | ']' :: rest => return ([], rest)
    | rest =>
      let (item, rest) ← readValue fuel nesting rest
      match ← skipGap rest with
      | ']' :: rest => return ([item], rest)
      | ',' :: rest =>
        let (items, rest) ← readItems fuel nesting rest
        return (item :: items, rest)
      | _ => none

/-- The pairs of a table between braces, added to those before them, and what
follows the closing brace. -/
def readPairs (fuel nesting : Nat) (branches : Branches) (cs : List Char) :
    Option (Branches × List Char) :=
  match fuel with
  | 0 => none
  | fuel + 1 => do
    let (path, rest) ← readPath cs
    let '=' :: rest := rest | none
    let (value, rest) ← readValue fuel nesting (skipBlanks rest)
    let branches ← put value true path branches
    match skipBlanks rest with
    | '\x7d' :: rest => return (branches, rest)
    | ',' :: rest => readPairs fuel nesting branches rest
    | _ => none

end

/-! ### Lines -/

/-- What the lines read so far have built up. -/
structure Progress where
  /-- The header that the next lines belong to. -/
  current : List String := []
  branches : Branches := []

/-- Takes in the line at the front, and gives what follows it. -/
def readLine (progress : Progress) (cs : List Char) : Option (Progress × List Char) := do
  match skipBlanks cs with
  | '[' :: '[' :: rest =>
    let (path, rest) ← readPath rest
    let ']' :: ']' :: rest := rest | none
    return (⟨path, ← addTable path progress.branches⟩, ← endLine rest)
  | '[' :: rest =>
    let (path, rest) ← readPath rest
    let ']' :: rest := rest | none
    return (⟨path, ← openTable path progress.branches⟩, ← endLine rest)
  | [] => return (progress, [])
  | '\n' :: rest => return (progress, rest)
  | '#' :: rest => return (progress, ← endLine ('#' :: rest))
  | rest =>
    let (path, rest) ← readPath rest
    let '=' :: rest := rest | none
    let (value, rest) ← readValue (rest.length + 1) nestingLimit (skipBlanks rest)
    let branches ← changeAt (put value true path) progress.current progress.branches
    return (⟨progress.current, branches⟩, ← endLine rest)

/-- Takes in at most some lines. -/
def readLines (lines : Nat) (progress : Progress) (cs : List Char) : Option Progress :=
  match lines, cs with
  | _, [] => some progress
  | 0, _ => none
  | lines + 1, cs => do
    let (progress, rest) ← readLine progress cs
    readLines lines progress rest

/-- The characters with a carriage return in front of a line break taken
away. -/
def joinLineEnds : List Char → List Char
  | [] => []
  | '\r' :: '\n' :: cs => '\n' :: joinLineEnds cs
  | c :: cs => c :: joinLineEnds cs

/-- The settings of a file, if it is without fault. A byte order mark may stand
at its front. -/
def read? (text : String) : Option Table :=
  let cs :=
    match joinLineEnds text.toList with
    | '\ufeff' :: cs => cs
    | cs => cs
  (readLines (cs.length + 1) {} cs).map (toTable ·.branches)

end EntityGraph.Config.Toml
