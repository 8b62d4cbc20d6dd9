import EntityGraph.Number.Shortest
import EntityGraph.Text.Join
import EntityGraph.Text.Case
import EntityGraph.Text.Unseen
import EntityGraph.Json.Writing
/-!
# Configuration faults

Why a configuration cannot be used: a file that is not in the file format, a
setting that is missing or of another type, or one that says nothing. A fault
of a setting knows the path of keys that leads to it.
-/

namespace EntityGraph.Config

open Number (Binary64)

/-- What was found in the place of a setting of another type. -/
inductive Found where
  | bool (b : Bool)
  | signed (n : Int)
  | unsigned (n : Int)
  | float (x : Binary64)
  | text (s : String)
  | sequence
  | map
deriving DecidableEq, Repr

/-- A character inside the quotes of a message; an unseen one is given by its
code point. -/
def quotedChar (c : Char) : List Char :=
  if c == '"' then ['\\', '"']
  else if c == '\\' then ['\\', '\\']
  else if c == '\n' then ['\\', 'n']
  else if c == '\r' then ['\\', 'r']
  else if c == '\t' then ['\\', 't']
  else if c == '\x00' then ['\\', '0']
  else if Text.isUnseen c then
    '\\' :: 'u' :: '\x7b' :: (Nat.toDigits 16 c.toNat ++ ['\x7d'])
  else [c]

/-- A text in the quotes of a message. -/
def quoted (s : String) : String :=
  String.ofList ('"' :: (s.toList.flatMap quotedChar ++ ['"']))

/-- The grave accent that encloses names and numbers in messages. -/
def grave : String := String.singleton '\x60'

/-- A text between grave accents. -/
def graved (s : String) : String :=
  grave ++ s ++ grave

/-- The wording of what was found. -/
def Found.message : Found → String
  | .bool b => "bool " ++ if b then "true" else "false"
  | .signed n => "signed int " ++ graved (toString n)
  | .unsigned n => "unsigned int " ++ graved (toString n)
  | .float x => "float " ++ graved x.toPlainText
  | .text s => "string " ++ quoted s
  | .sequence => "sequence"
  | .map => "map"

/-- Why a configuration cannot be used. -/
inductive Fault where
  /-- Some files are not in the file format. -/
  | malformed (files : Nat)
  /-- The table at the path lacks a required setting. -/
  | missingField (path : List String) (field : String)
  /-- The setting at the path is of another type. -/
  | invalidType (path : List String) (found : Found) (expected : String)
  /-- The setting at the path is a number out of range. -/
  | invalidValue (path : List String) (found : Found) (expected : String)
  /-- The list at the path is too short to fill a section. -/
  | invalidLength (path : List String) (length : Nat) (expected : String)
  /-- A connection setting holds nothing but white space. -/
  | blank (setting : String)
deriving DecidableEq, Repr

/-- The path of keys to the faulty setting; a fault of no one setting has the
empty path. -/
def Fault.path : Fault → List String
  | .missingField path _ | .invalidType path _ _ | .invalidValue path _ _
  | .invalidLength path _ _ => path
  | .malformed _ | .blank _ => []

/-- The fault with a key put in front of its path. -/
def Fault.under (key : String) : Fault → Fault
  | .missingField path field => .missingField (key :: path) field
  | .invalidType path found expected => .invalidType (key :: path) found expected
  | .invalidValue path found expected => .invalidValue (key :: path) found expected
  | .invalidLength path length expected => .invalidLength (key :: path) length expected
  | .malformed files => .malformed files
  | .blank setting => .blank setting

/-- The number of faults that are reported as one: each malformed file counts,
and any other fault stands alone. -/
def Fault.count : Fault → Nat
  | .malformed files => files
  | _ => 1

/-- The wording of a fault. -/
def Fault.message : Fault → String
  | .malformed _ => "syntax"
  | .missingField _ field => "missing field " ++ graved field
  | .invalidType _ found expected =>
    "invalid type: found " ++ found.message ++ ", expected " ++ expected
  | .invalidValue _ found expected => "invalid value " ++ found.message ++ ", expected " ++ expected
  | .invalidLength _ length expected =>
    "invalid length " ++ toString length ++ ", expected " ++ expected
  | .blank setting => setting ++ " must not be empty"

/-- The wording of a fault of a setting that comes from an environment variable,
which says where the setting is looked for. -/
def Fault.variableMessage (fault : Fault) : String :=
  match fault.path with
  | [] => fault.message
  | path =>
    fault.message ++ " for key " ++ quoted (Text.upperAscii (Text.join "." path)) ++ " in "
      ++ graved "GRAPHMAP_" ++ " environment variable(s)"

end EntityGraph.Config
