import EntityGraph.Schema.Field
import EntityGraph.Json.Basic
import EntityGraph.Time.Instant
import EntityGraph.Text.Blank
/-!
# Field values

The values that fields of entities hold, the JSON form in which they are
stored, and which of them say nothing: a blank value, and, for a field of a
given kind, the default value.
-/

namespace EntityGraph

open Number (Binary64)
open Time (Instant)

/-- A value of a field. -/
inductive Value where
  | null
  | string (s : String)
  | integer (n : Int)
  | float (x : Binary64)
  | boolean (b : Bool)
  | datetime (t : Instant)
  | enum (variant : String)
  | list (items : List Value)

namespace Value

instance : Inhabited Value := ⟨null⟩

mutual

/-- Decides equality of two values. -/
def decEq : (a b : Value) → Decidable (a = b)
  | null, null => isTrue rfl
  | string a, string b => decidable_of_iff (a = b) ⟨congrArg _, fun h => by cases h; rfl⟩
  | integer a, integer b => decidable_of_iff (a = b) ⟨congrArg _, fun h => by cases h; rfl⟩
  | float a, float b => decidable_of_iff (a = b) ⟨congrArg _, fun h => by cases h; rfl⟩
  | boolean a, boolean b => decidable_of_iff (a = b) ⟨congrArg _, fun h => by cases h; rfl⟩
  | datetime a, datetime b => decidable_of_iff (a = b) ⟨congrArg _, fun h => by cases h; rfl⟩
  | enum a, enum b => decidable_of_iff (a = b) ⟨congrArg _, fun h => by cases h; rfl⟩
  | list a, list b =>
    have := decEqItems a b
    decidable_of_iff (a = b) ⟨congrArg _, fun h => by cases h; rfl⟩
  | null, string _ | null, integer _ | null, float _ | null, boolean _ | null, datetime _
  | null, enum _ | null, list _
  | string _, null | string _, integer _ | string _, float _ | string _, boolean _
  | string _, datetime _ | string _, enum _ | string _, list _
  | integer _, null | integer _, string _ | integer _, float _ | integer _, boolean _
  | integer _, datetime _ | integer _, enum _ | integer _, list _
  | float _, null | float _, string _ | float _, integer _ | float _, boolean _
  | float _, datetime _ | float _, enum _ | float _, list _
  | boolean _, null | boolean _, string _ | boolean _, integer _ | boolean _, float _
  | boolean _, datetime _ | boolean _, enum _ | boolean _, list _
  | datetime _, null | datetime _, string _ | datetime _, integer _ | datetime _, float _
  | datetime _, boolean _ | datetime _, enum _ | datetime _, list _
  | enum _, null | enum _, string _ | enum _, integer _ | enum _, float _ | enum _, boolean _
  | enum _, datetime _ | enum _, list _
  | list _, null | list _, string _ | list _, integer _ | list _, float _ | list _, boolean _
  | list _, datetime _ | list _, enum _ => isFalse (fun h => by cases h)

/-- Decides equality of two lists of values. -/
def decEqItems : (as bs : List Value) → Decidable (as = bs)
  | [], [] => isTrue rfl
  | [], _ :: _ | _ :: _, [] => isFalse (fun h => by cases h)
  | a :: as, b :: bs =>
    have := decEq a b
    have := decEqItems as bs
    decidable_of_iff (a = b ∧ as = bs) (by simp)

end

instance : DecidableEq Value := decEq

/-- Whether a value says nothing whatever the field: null, or a blank text. -/
def isBlank : Value → Bool
  | null => true
  | string s | enum s => Text.isBlank s
  | _ => false

/-- Whether a variant is the first one of an enumeration, up to case. -/
def isFirstVariant (kind : Kind) (variant : String) : Bool :=
  match kind with
  | .enum (first :: _) => Text.eqIgnoringCase first variant
  | _ => false

/-- Whether a value is the one that a field of the kind has when nothing was
said about it. -/
def isDefault (kind : Kind) : Value → Bool
  | null => true
  | string s => Text.isBlank s
  | integer n => n == 0
  | float x => x.isZero
  | boolean b => !b
  | datetime t => t == .epoch
  | enum variant => Text.isBlank variant || isFirstVariant kind variant
  | list items => items.isEmpty

mutual

/-- The stored form of a value. -/
def toJson : Value → Json
  | null => .null
  | string s | enum s => .str s
  | integer n => .int n
  | float x => .ofFloat x
  | boolean b => .bool b
  | datetime t => .str t.toText
  | list items => .arr (toJsonItems items)

/-- The stored forms of the items of a list. -/
def toJsonItems : List Value → List Json
  | [] => []
  | item :: items => toJson item :: toJsonItems items

end

/-- The text of a value that is one, or the name of a variant. -/
def asText? : Value → Option String
  | string s | enum s => some s
  | _ => none

/-- The integer of a value that is one. -/
def asInteger? : Value → Option Int
  | integer n => some n
  | _ => none

/-- An optional value, null when it is absent. -/
def ofOption : Option Value → Value
  | some v => v
  | none => null

end Value

end EntityGraph
