import EntityGraph.Bolt.NumericHost
/-!
# Server addresses

Where a server is to be reached: a scheme, which says how to talk to it, a
host and perhaps a port. An address without a scheme or without a host is read
again with the common scheme in front of it, so a host alone is an address.
-/

namespace EntityGraph.Bolt

/-- The address of a server. -/
structure Address where
  scheme : String
  host : String
  port : Option Nat
deriving DecidableEq, Repr

namespace Address

/-- Whether a character may stand in a scheme. -/
def isSchemeChar (c : Char) : Bool :=
  c.isAlphanum || c == '+' || c == '-' || c == '.'

/-- The scheme at the front, in small letters, and what follows its colon. -/
def splitScheme (cs : List Char) : Option (List Char × List Char) :=
  match cs.takeWhile isSchemeChar, cs.dropWhile isSchemeChar with
  | c :: scheme, ':' :: rest =>
    if c.isAlpha then some ((c :: scheme).map Char.toLower, rest) else none
  | _, _ => none

/-- Whether the part of an address that names the host ends before a
character. -/
def endsAuthority (c : Char) : Bool :=
  c == '/' || c == '?' || c == '#'

/-- The characters before the last `@`, if there is one, and those after it. -/
def splitUser (cs : List Char) : Option (List Char) × List Char :=
  let host := (cs.reverse.takeWhile (· != '@')).reverse
  if host.length = cs.length then (none, cs)
  else (some (cs.take (cs.length - host.length - 1)), host)

/-- Whether a character must not stand in the name of a host. -/
def isForbidden (c : Char) : Bool :=
  c == '\x00' || c == ' ' || c == '<' || c == '>' || c == '[' || c == '\\' || c == ']'
    || c == '^' || c == '|'

/-- The name of a host at the front, and what follows it. A host in square
brackets is a number, which may hold colons. -/
def splitHost (cs : List Char) : Option (List Char × List Char) :=
  match cs with
  | '[' :: rest =>
    let number := rest.takeWhile (· != ']')
    match rest.dropWhile (· != ']') with
    | close :: after =>
      if NumericHost.isValid number then some ('[' :: (number ++ [close]), after) else none
    | [] => none
  | _ =>
    let host := cs.takeWhile (· != ':')
    if host.any isForbidden then none else some (host, cs.dropWhile (· != ':'))

/-- The port after a host: none, or a colon and a number that fits 16 bits. A
backslash ends the number. -/
def readPort : List Char → Option (Option Nat)
  | [] => some none
  | ':' :: cs =>
    let digits := cs.takeWhile Char.isDigit
    let rest := cs.dropWhile Char.isDigit
    if !(rest.isEmpty || rest.head? == some '\\') then none
    else if digits.isEmpty then some none
    else
      let n := Number.ofDigits 0 digits
      if n < 65536 then some (some n) else none
  | _ => none

/-- The outcome of reading a text as an address that states its scheme. -/
inductive Reading where
  | address (a : Address)
  /-- There is no scheme, or no host after it. -/
  | incomplete
  | malformed
deriving DecidableEq, Repr

/-- Reads the host and the port after the scheme and two slashes. Where there
is a user or a port there has to be a host. -/
def readAuthority (scheme cs : List Char) : Reading :=
  let authority := cs.takeWhile (!endsAuthority ·)
  let (user, named) := splitUser authority
  match splitHost named with
  | none => .malformed
  | some (host, rest) =>
    if host.isEmpty then
      if rest.isEmpty && (user.all fun name => name.isEmpty || name = [':'])
          && !(user == some [] && authority.length < cs.length) then .incomplete
      else .malformed
    else
      match readPort rest with
      | some port => .address ⟨String.ofList scheme, String.ofList host, port⟩
      | none => .malformed

/-- The schemes that need no slashes before a host, none of which is for
databases. -/
def webSchemes : List String :=
  ["http", "https", "ws", "wss", "ftp"]

/-- Reads a text as an address that states its scheme. Blanks and controls at
the ends do not count, nor do tabs and line breaks anywhere. -/
def readFull (text : List Char) : Reading :=
  let cs := (text.dropWhile (·.toNat ≤ 32)).reverse.dropWhile (·.toNat ≤ 32)
    |>.reverse.filter fun c => c != '\t' && c != '\n' && c != '\r'
  match splitScheme cs with
  | none => .incomplete
  | some (scheme, rest) =>
    if webSchemes.contains (String.ofList scheme) then .malformed
    else
      match rest with
      | '/' :: '/' :: rest => readAuthority scheme rest
      | _ => .incomplete

/-- The schemes that clients know. -/
def knownSchemes : List String :=
  ["bolt", "bolt+s", "bolt+ssc", "neo4j", "neo4j+s", "neo4j+ssc"]

/-- Reads a text as the address of a server that clients can talk to. -/
def read? (text : String) : Option Address :=
  let reading :=
    match readFull text.toList with
    | .incomplete => readFull ("bolt://" ++ text).toList
    | other => other
  match reading with
  | .address a => if knownSchemes.contains a.scheme then some a else none
  | _ => none

end Address

end EntityGraph.Bolt
