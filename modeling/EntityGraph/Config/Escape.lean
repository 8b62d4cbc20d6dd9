import EntityGraph.Number.Numeral
/-!
# Escapes in quoted settings

The characters that stand between double quotes in files and variables: a
backslash takes away or gives a meaning to what follows it, and control
characters must not stand for themselves.
-/

namespace EntityGraph.Config

/-- The characters up to the closing quote, and what follows it. With escapes,
the character after a backslash closes nothing. -/
def splitQuoted (quote : Char) (escapes : Bool) : List Char → Option (List Char × List Char)
  | [] => none
  | c :: cs =>
    if c == quote then some ([], cs)
    else if escapes && c == '\\' then
      match cs with
      | [] => none
      | d :: cs => (splitQuoted quote escapes cs).map fun (body, rest) => (c :: d :: body, rest)
    else (splitQuoted quote escapes cs).map fun (body, rest) => (c :: body, rest)

/-- Whether a character may stand for itself in a quoted text. -/
def standsForItself (c : Char) : Bool :=
  c == '\t' || (32 ≤ c.toNat && c.toNat != 127)

/-- The character that a backslash and another character stand for. -/
def escaped? (c : Char) : Option Char :=
  if c == '"' || c == '\\' then some c
  else if c == 'b' then some '\x08'
  else if c == 't' then some '\t'
  else if c == 'n' then some '\n'
  else if c == 'f' then some '\x0c'
  else if c == 'r' then some '\r'
  else none

/-- The number of hexadecimal digits in the escape of a code point. -/
def codeLength (c : Char) : Nat :=
  if c == 'u' then 4 else if c == 'U' then 8 else 0

/-- The value of a hexadecimal digit. -/
def hexDigit? (c : Char) : Option Nat :=
  if c.isDigit then some (Number.digitValue c)
  else if 'a' ≤ c.toLower && c.toLower ≤ 'f' then some (c.toLower.toNat - 'a'.toNat + 10)
  else none

/-- The character whose code point some hexadecimal digits give. -/
def codePoint? (digits : List Char) : Option Char := do
  let values ← digits.mapM hexDigit?
  let n := values.foldl (fun n d => 16 * n + d) 0
  if n.isValidChar then some (Char.ofNat n) else none

/-- The characters after the blanks and line breaks that a backslash at the end
of a line takes with it, if it stands there. -/
def continued? (cs : List Char) : Option (List Char) :=
  let rest := cs.dropWhile fun c => c == ' ' || c == '\t'
  match rest with
  | '\n' :: after => some (after.dropWhile fun c => c == ' ' || c == '\t' || c == '\n')
  | _ => none

theorem continued?_length {cs rest : List Char} (h : continued? cs = some rest) :
    rest.length ≤ cs.length := by
  unfold continued? at h
  simp only at h
  split at h
  · next after hdrop =>
    cases h
    have h₁ := (List.dropWhile_sublist (l := after)
      fun c => c == ' ' || c == '\t' || c == '\n').length_le
    have h₂ := (List.dropWhile_sublist (l := cs) fun c => c == ' ' || c == '\t').length_le
    rw [hdrop, List.length_cons] at h₂
    omega
  · simp at h

/-- The text that characters between double quotes stand for. Over several
lines a line break stands for itself, and one after a backslash is left out
with the blanks that follow it. -/
def unescape (severalLines : Bool) (cs : List Char) : Option (List Char) :=
  match cs with
  | [] => some []
  | c :: cs =>
    if c != '\\' then
      if standsForItself c || (severalLines && c == '\n') then
        (unescape severalLines cs).map (c :: ·)
      else none
    else
      match cs with
      | [] => none
      | e :: rest =>
        match escaped? e with
        | some d => (unescape severalLines rest).map (d :: ·)
        | none =>
          let length := codeLength e
          if length != 0 && length ≤ rest.length then do
            let d ← codePoint? (rest.take length)
            let more ← unescape severalLines (rest.drop length)
            return d :: more
          else if severalLines then
            match _after : continued? (e :: rest) with
            | some after => unescape severalLines after
            | none => none
          else none
termination_by cs.length
decreasing_by
  all_goals simp_wf
  all_goals try omega
  have := continued?_length _after
  simp only [List.length_cons] at this
  omega

end EntityGraph.Config
