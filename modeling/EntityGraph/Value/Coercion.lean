import EntityGraph.Value.Basic
import EntityGraph.Failure
import EntityGraph.Time.Reading
/-!
# Coercion

Reading a stored JSON value as a value of a kind. Texts, numbers and truth
values are taken for one another where that loses nothing a reader would miss;
a list keeps the items that can be read and drops the others.
-/

namespace EntityGraph

open Number (Binary64)
open Time (Instant)

namespace Kind

/-- Reads a text; numbers and truth values are written out. -/
def coerceString : Json → Except ConversionFault Value
  | .str s => .ok (.string s)
  | .bool b => .ok (.string (Json.bool b).compact)
  | .int n => .ok (.string (Json.int n).compact)
  | .float x => .ok (.string x.toText)
  | got => .error (.expected "string" got)

/-- Reads an integer. A number out of the signed 64-bit range goes by way of
the nearest floating-point number, and from there to the nearest integer in
range. -/
def coerceInteger : Json → Except ConversionFault Value
  | .int n => .ok (.integer (if Number.isInt64 n then n else (Binary64.ofInt n).round))
  | .float x => if x.isFinite then .ok (.integer x.round) else .error (.integerRange (.float x))
  | .str s =>
    match Number.readInt64 (Text.trim s) with
    | .ok n => .ok (.integer n)
    | .error fault => .error (.integerText s fault)
  | .bool b => .ok (.integer (if b then 1 else 0))
  | got => .error (.expected "integer" got)

/-- Reads a floating-point number. -/
def coerceFloat : Json → Except ConversionFault Value
  | .int n => .ok (.float (.ofInt n))
  | .float x => .ok (.float x)
  | .str s =>
    match Number.readFloat (Text.trim s) with
    | .ok x => .ok (.float x)
    | .error fault => .error (.floatText s fault)
  | .bool b => .ok (.float (.ofInt (if b then 1 else 0)))
  | got => .error (.expected "float" got)

/-- Reads a truth value: the words for it in any case, and numbers by whether
they differ from zero. -/
def coerceBoolean : Json → Except ConversionFault Value
  | .bool b => .ok (.boolean b)
  | .str s =>
    if Text.eqIgnoringCase (Text.trim s) "true" then .ok (.boolean true)
    else if Text.eqIgnoringCase (Text.trim s) "false" then .ok (.boolean false)
    else .error (.expected "boolean" (.str s))
  | .int n => .ok (.boolean (n != 0))
  | .float x => .ok (.boolean (!x.isZero))
  | got => .error (.expected "boolean" got)

/-- Reads a timestamp. -/
def coerceDatetime : Json → Except ConversionFault Value
  | .str s =>
    match Instant.read? s with
    | some t => .ok (.datetime t)
    | none => .error (.datetimeText s)
  | got => .error (.expected "datetime" got)

/-- The variant at a place of the list. -/
def variantAt (variants : List String) (index : Nat) : Except ConversionFault Value :=
  match variants[index]? with
  | some variant => .ok (.enum variant)
  | none => .error (.variantRange index)

/-- Reads a variant: its name up to case and surrounding white space, or its
place in the list. -/
def coerceEnum (variants : List String) : Json → Except ConversionFault Value
  | .str s =>
    match variants.find? (Text.eqIgnoringCase · (Text.trim s)) with
    | some variant => .ok (.enum variant)
    | none => .error (.unknownVariant (Text.trim s))
  | .int n =>
    if 0 ≤ n then variantAt variants n.toNat else .error (.variantIndex (.int n))
  | .float x => .error (.variantIndex (.float x))
  | got => .error (.expected "enum name" got)

/-- Reads a JSON value as a value of a kind. A list drops null items and those
that cannot be read. -/
def coerce : Kind → Json → Except ConversionFault Value
  | string, raw => coerceString raw
  | integer, raw => coerceInteger raw
  | float, raw => coerceFloat raw
  | boolean, raw => coerceBoolean raw
  | datetime, raw => coerceDatetime raw
  | enum variants, raw => coerceEnum variants raw
  | list inner, .arr items =>
    .ok (.list ((items.filter (!·.isNull)).filterMap fun item => (coerce inner item).toOption))
  | list _, got => .error (.expected "list" got)

end Kind

/-- Reads a JSON value as a value of a field. Null is a value of nullable
fields alone. -/
def Field.coerce (f : Field) (raw : Json) : Except Failure Value :=
  if raw.isNull then
    if f.nullable then .ok .null else .error (.conversion f.name .nullValue)
  else
    match f.kind.coerce raw with
    | .ok v => .ok v
    | .error fault => .error (.conversion f.name fault)

end EntityGraph
