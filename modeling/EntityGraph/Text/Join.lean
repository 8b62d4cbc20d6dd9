/-!
# Joined texts

Texts put together with a separator between neighbours, and texts cut at a
separator.
-/

namespace EntityGraph.Text

/-- The parts with `sep` between neighbours. -/
def join (sep : String) : List String → String
  | [] => ""
  | [part] => part
  | part :: next :: rest => part ++ sep ++ join sep (next :: rest)

/-- The lines of a text, each but the last ended by a line feed. -/
def unlines (lines : List String) : String :=
  join "\n" lines

/-- The characters before the first one that `stop` accepts. -/
def before (stop : Char → Bool) (s : String) : String :=
  String.ofList (s.toList.takeWhile (!stop ·))

/-- Cuts characters at each `sep`; there is one more part than there are
separators. -/
def splitChars (sep : Char) : List Char → List (List Char)
  | [] => [[]]
  | c :: cs =>
    if c == sep then [] :: splitChars sep cs
    else
      match splitChars sep cs with
      | part :: rest => (c :: part) :: rest
      | [] => [[c]]

/-- The characters after `start`, when they begin with it. -/
def dropStart? (start cs : List Char) : Option (List Char) :=
  match start, cs with
  | [], cs => some cs
  | _ :: _, [] => none
  | p :: ps, c :: cs => if p == c then dropStart? ps cs else none

/-- Whether `part` occurs in the characters. -/
def occursIn (part : List Char) : List Char → Bool
  | [] => part.isEmpty
  | c :: cs => (dropStart? part (c :: cs)).isSome || occursIn part cs

/-- Whether a text contains another. -/
def contains (s part : String) : Bool :=
  occursIn part.toList s.toList

end EntityGraph.Text
