import EntityGraph.Json.Basic
/-!
# Decoding

Reading data of a definite type from JSON. Nothing is converted: texts, numbers
and truth values are not taken for one another, a floating-point number is
never an integer, and null is a value of no type but JSON itself.
-/

namespace EntityGraph

/-- What reads data of a type from JSON, if the JSON has its form. -/
abbrev Decoder (α : Type) := Json → Option α

namespace Decode

variable {α : Type}

/-- Any JSON. -/
def value : Decoder Json := some

/-- A text. -/
def text : Decoder String := Json.asText?

/-- A truth value. -/
def flag : Decoder Bool
  | .bool b => some b
  | _ => none

/-- A signed 64-bit integer. -/
def int64 : Decoder Int := Json.asInt64?

/-- An unsigned 32-bit integer. -/
def word32 : Decoder UInt32
  | .int n => if Number.isWord32 n then some n.toNat.toUInt32 else none
  | _ => none

/-- A number, integer or not. -/
def number : Decoder Number.Binary64 := Json.asFloat?

/-- An object. -/
def object : Decoder (Bag Json)
  | .obj members => some (.ofList members)
  | _ => none

/-- The items of a list, all of which must have the form of an item. -/
def items (item : Decoder α) : List Json → Option (List α)
  | [] => some []
  | x :: xs => do return (← item x) :: (← items item xs)

/-- A list. -/
def list (item : Decoder α) : Decoder (List α)
  | .arr xs => items item xs
  | _ => none

/-- A member of an object that must be there. -/
def required (decoder : Decoder α) (key : String) (members : List (String × Json)) : Option α :=
  (lookupEntry key members).bind decoder

/-- A member of an object that has a default when it is not there. A member
that is there must have its form. -/
def defaulted (decoder : Decoder α) (default : α) (key : String)
    (members : List (String × Json)) : Option α :=
  match lookupEntry key members with
  | none => some default
  | some j => decoder j

end Decode

end EntityGraph
