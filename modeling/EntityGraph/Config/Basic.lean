import EntityGraph.Config.Setting
import EntityGraph.Search.Request
import EntityGraph.Text.Blank
/-!
# The configuration

What a program needs to know before it can run: how to reach the database, and
what a search asks for when nothing else is said. A section is read from the
settings under its name, field by field, and the first field at fault is
reported with the path of keys that leads to it.
-/

namespace EntityGraph.Config

/-- How to reach the database. -/
structure Connection where
  uri : String
  user : String
  password : Option String := none
  /-- How many connections may be open at once. -/
  maxConnections : UInt64 := 16
  /-- How many rows are asked for at once. -/
  fetchSize : UInt64 := 256
deriving DecidableEq, Repr

/-- What a search asks for when nothing else is said. -/
structure SearchDefaults where
  pageSize : UInt32 := 25
  orderBy : String := "created_at"
  descending : Bool := true
deriving DecidableEq, Repr

/-- The request for the first page with the defaults. -/
def SearchDefaults.request (defaults : SearchDefaults) : SearchRequest :=
  { pageSize := defaults.pageSize
    orderBy := some defaults.orderBy
    descending := defaults.descending }

/-- The configuration of a program. -/
structure Configuration where
  connection : Connection
  search : SearchDefaults := {}
deriving DecidableEq, Repr

/-! ### Single settings -/

namespace Setting

/-- A text. -/
def readText : Setting → Except Fault String
  | text s => .ok s
  | other => .error (.invalidType [] other.found "a string")

/-- A truth value. -/
def readFlag : Setting → Except Fault Bool
  | bool b => .ok b
  | other => .error (.invalidType [] other.found "a boolean")

/-- A whole number below a bound; `type` is what messages call numbers of that
range. -/
def readNumber (bound : Nat) (type : String) (setting : Setting) : Except Fault Nat :=
  match setting with
  | signed n | unsigned n =>
    if 0 ≤ n && n < bound then .ok n.toNat
    else .error (.invalidValue [] setting.found type)
  | other => .error (.invalidType [] other.found type)

/-- A 32-bit number. -/
def readWord32 (setting : Setting) : Except Fault UInt32 :=
  (setting.readNumber (Nat.pow 2 32) "u32").map Nat.toUInt32

/-- A 64-bit number. -/
def readWord64 (setting : Setting) : Except Fault UInt64 :=
  (setting.readNumber (Nat.pow 2 64) "usize").map Nat.toUInt64

end Setting

/-! ### Sections -/

/-- A section of which fields have been read so far into a `Draft`. -/
structure SectionForm (Draft Result : Type) where
  /-- What messages call the section. -/
  name : String
  /-- The fields in the order in which a list gives them. -/
  fields : List String
  blank : Draft
  /-- Takes in the setting of a field. A name that is no field's is passed
  over. -/
  take : Draft → String → Setting → Except Fault Draft
  /-- The section of all fields; `missing` says what to report of a required
  field, given by its place and its name, that has no setting. -/
  finish : (Nat → String → Fault) → Draft → Except Fault Result

namespace SectionForm

variable {Draft Result : Type}

/-- Takes in settings, each of a field and under a key, in their order. -/
def takeAll (form : SectionForm Draft Result) :
    Draft → List (String × String × Setting) → Except Fault Draft
  | draft, [] => .ok draft
  | draft, (key, field, setting) :: rest => do
    let draft ← (form.take draft field setting).mapError (.under key)
    form.takeAll draft rest

/-- Reads a section from a table, whose members are taken in ascending order
of keys, or from a list of its fields' settings. -/
def read (form : SectionForm Draft Result) (setting : Setting) : Except Fault Result :=
  match setting with
  | .table members => do
    let draft ← form.takeAll form.blank
      (members.map fun (key, setting) => (key, key, setting))
    form.finish (fun _ field => .missingField [] field) draft
  | .list items => do
    let draft ← form.takeAll form.blank
      ((form.fields.zip items).mapIdx fun i (field, setting) => (toString i, field, setting))
    form.finish (fun i _ => .invalidLength [] i
      ("struct " ++ form.name ++ " with " ++ toString form.fields.length ++ " elements")) draft
  | other => .error (.invalidType [] other.found ("struct " ++ form.name))

end SectionForm

/-- The fields of a connection as far as they are known. -/
structure ConnectionDraft where
  uri : Option String := none
  user : Option String := none
  password : Option String := none
  maxConnections : Option UInt64 := none
  fetchSize : Option UInt64 := none

/-- The section on the connection. Its address and its user are required. -/
def connectionForm : SectionForm ConnectionDraft Connection where
  name := "Neo4jConfig"
  fields := ["uri", "user", "password", "max_connections", "fetch_size"]
  blank := {}
  take draft field setting :=
    match field with
    | "uri" => setting.readText.map fun s => { draft with uri := some s }
    | "user" => setting.readText.map fun s => { draft with user := some s }
    | "password" => setting.readText.map fun s => { draft with password := some s }
    | "max_connections" => setting.readWord64.map fun n => { draft with maxConnections := some n }
    | "fetch_size" => setting.readWord64.map fun n => { draft with fetchSize := some n }
    | _ => .ok draft
  finish missing draft :=
    match draft.uri, draft.user with
    | none, _ => .error (missing 0 "uri")
    | _, none => .error (missing 1 "user")
    | some uri, some user =>
      let standard : Connection := { uri, user, password := draft.password }
      .ok { standard with
        maxConnections := draft.maxConnections.getD standard.maxConnections
        fetchSize := draft.fetchSize.getD standard.fetchSize }

/-- The section on searches, every field of which has a default. -/
def searchForm : SectionForm SearchDefaults SearchDefaults where
  name := "SearchConfig"
  fields := ["default_page_size", "default_order_by", "default_descending"]
  blank := {}
  take draft field setting :=
    match field with
    | "default_page_size" => setting.readWord32.map fun n => { draft with pageSize := n }
    | "default_order_by" => setting.readText.map fun s => { draft with orderBy := s }
    | "default_descending" => setting.readFlag.map fun b => { draft with descending := b }
    | _ => .ok draft
  finish _ draft := .ok draft

/-- The sections of a configuration as far as they are known. -/
structure ConfigurationDraft where
  connection : Option Connection := none
  search : SearchDefaults := {}

/-- The whole configuration. The section on the connection is required. -/
def configurationForm : SectionForm ConfigurationDraft Configuration where
  name := "Config"
  fields := ["neo4j", "search"]
  blank := {}
  take draft field setting :=
    match field with
    | "neo4j" => (connectionForm.read setting).map fun c => { draft with connection := some c }
    | "search" => (searchForm.read setting).map fun s => { draft with search := s }
    | _ => .ok draft
  finish missing draft :=
    match draft.connection with
    | none => .error (missing 0 "neo4j")
    | some connection => .ok { connection, search := draft.search }

/-- The fault of a configuration whose connection settings say nothing. -/
def Connection.blankFault? (connection : Connection) : Option Fault :=
  if Text.isBlank connection.uri then some (.blank "neo4j.uri")
  else if Text.isBlank connection.user then some (.blank "neo4j.user")
  else none

/-- Reads a configuration from its settings. -/
def readConfiguration (settings : Table) : Except Fault Configuration := do
  let configuration ← configurationForm.read (.table settings)
  match configuration.connection.blankFault? with
  | some fault => .error fault
  | none => .ok configuration

end EntityGraph.Config
