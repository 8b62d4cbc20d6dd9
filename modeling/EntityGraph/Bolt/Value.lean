import EntityGraph.Graph.Node
import EntityGraph.Time.Instant
/-!
# Values of the database

The values that go to the database as parameters and come back in columns, and
their JSON forms. Nodes and relationships keep their identifiers where a
column holds one, or a list of nodes; deeper down only their properties
remain. Times come back as texts.
-/

namespace EntityGraph.Bolt

open Number (Binary64)
open Time (wallChars clockChars offsetChars nanosPerSecond)

/-- A value on the way to or from the database. -/
inductive Value where
  | null
  | bool (b : Bool)
  | int (n : Int)
  | float (x : Binary64)
  | text (s : String)
  | list (items : List Value)
  | map (members : List (String × Value))
  | node (id : Int) (labels : List String) (properties : List (String × Value))
  | edge (id startId endId : Int) (type : String) (properties : List (String × Value))
  /-- The time that clocks show at some offset, in seconds, from universal
  time. -/
  | zonedDatetime (seconds : Int) (nanos : Nat) (offset : Int)
  /-- The time that clocks show at no known offset. -/
  | localDatetime (seconds : Int) (nanos : Nat)
  /-- A date by the number of days since the start of 1970. -/
  | date (days : Int)
  /-- A time of day by the nanoseconds since midnight, at some offset. -/
  | zonedTime (nanos : Nat) (offset : Int)
  /-- A time of day by the nanoseconds since midnight. -/
  | localTime (nanos : Nat)

namespace Value

instance : Inhabited Value := ⟨null⟩

/-- A number as the database takes it: integers out of the signed 64-bit range
are sent as floating-point numbers. -/
def ofInt (n : Int) : Value :=
  if Number.isInt64 n then int n else float (.ofInt n)

mutual

/-- The value that stands for JSON. -/
def ofJson : Json → Value
  | .null => null
  | .bool b => bool b
  | .int n => ofInt n
  | .float x => float x
  | .str s => text s
  | .arr items => list (ofJsonItems items)
  | .obj members => map (ofJsonMembers members)

/-- The values that stand for the items of a list. -/
def ofJsonItems : List Json → List Value
  | [] => []
  | item :: items => ofJson item :: ofJsonItems items

/-- The values that stand for the members of an object. -/
def ofJsonMembers : List (String × Json) → List (String × Value)
  | [] => []
  | (key, value) :: members => (key, ofJson value) :: ofJsonMembers members

end

/-- The text of a time of day. -/
def clockText (nanos : Nat) : String :=
  String.ofList (clockChars (nanos / nanosPerSecond) (nanos % nanosPerSecond))

mutual

/-- The JSON form of a value: of nodes and relationships just their
properties. -/
def plain : Value → Json
  | null => .null
  | bool b => .bool b
  | int n => .int n
  | float x => .ofFloat x
  | text s => .str s
  | list items => .arr (plainItems items)
  | map members => .ofBag (.ofList (plainMembers members))
  | node _ _ properties => .ofBag (.ofList (plainMembers properties))
  | edge _ _ _ _ properties => .ofBag (.ofList (plainMembers properties))
  | zonedDatetime seconds nanos offset =>
    .str (String.ofList (wallChars seconds nanos ++ offsetChars offset))
  | localDatetime seconds nanos => .str (String.ofList (wallChars seconds nanos))
  | date days => .str (String.ofList (Time.Date.ofDays days).toChars)
  | zonedTime nanos _ | localTime nanos => .str (clockText nanos)

/-- The JSON forms of the items of a list. -/
def plainItems : List Value → List Json
  | [] => []
  | item :: items => plain item :: plainItems items

/-- The JSON forms of the members of a map. -/
def plainMembers : List (String × Value) → List (String × Json)
  | [] => []
  | (key, value) :: members => (key, plain value) :: plainMembers members

end

/-- The JSON form of a value for which the driver gives a form, or none. A text
stands as it is. Otherwise a date-time is written out, one at no known offset as
in universal time. -/
def render (given : Option Json) (v : Value) : Json :=
  match given, v with
  | some (.str s), _ => .str s
  | _, zonedDatetime seconds nanos offset =>
    .str (String.ofList (wallChars seconds nanos ++ offsetChars offset))
  | _, localDatetime seconds nanos => .str (Time.Instant.mk seconds nanos).toText
  | _, _ => given.getD .null

/-- The JSON form that the driver gives for a value. It has one for every value,
times included. -/
def given? (v : Value) : Option Json :=
  some v.plain

section Columns

-- What the driver gives as the JSON form of a value.
variable (given : Value → Option Json)

/-- The properties of a node or a relationship. -/
def properties (members : List (String × Value)) : Bag Json :=
  .ofList (members.map fun (key, v) => (key, v.render (given v)))

/-- The node that a value is. -/
def asNode? : Value → Option Node
  | node id labels members =>
    some { id := toString id, labels, properties := properties given members }
  | _ => none

/-- The relationship that a value is. -/
def asEdge? : Value → Option Edge
  | edge id startId endId type members =>
    some { id := toString id, type, startId := toString startId, endId := toString endId
           properties := properties given members }
  | _ => none

/-- The nodes of a list that holds nothing else. -/
def asNodes? : Value → Option (List Node)
  | list items => items.mapM (asNode? given)
  | _ => none

/-- **The JSON form of a column.** A node, a relationship and a list of nodes
keep their identifiers. -/
def columnBy (v : Value) : Json :=
  match v.asNode? given, v.asEdge? given, v.asNodes? given with
  | some n, _, _ => n.toJson
  | none, some e, _ => e.toJson
  | none, none, some nodes => .arr (nodes.map Node.toJson)
  | none, none, none => v.render (given v)

end Columns

/-- The JSON form of a column with the forms that the driver gives. -/
def column (v : Value) : Json :=
  v.columnBy given?

end Value

end EntityGraph.Bolt
