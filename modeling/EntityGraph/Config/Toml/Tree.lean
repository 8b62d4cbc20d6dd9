import EntityGraph.Config.Setting
/-!
# The tables of a file

The tree that the lines of a TOML file build up. Each table remembers how it
came to be, because that decides which later lines may add to it: a table with
a header of its own is complete after its lines, and one that dotted keys have
made takes further dotted keys only.
-/

namespace EntityGraph.Config.Toml

/-- How a table came to be. -/
inductive Origin where
  /-- By the header of a table inside it. -/
  | implied
  /-- By a header of its own. -/
  | header
  /-- By dotted keys. -/
  | dotted
deriving DecidableEq, Repr

/-- What stands under a key. -/
inductive Tree where
  | setting (s : Setting)
  | table (origin : Origin) (members : List (String × Tree))
  /-- A list of tables, each with a header of its own. -/
  | tables (items : List (List (String × Tree)))

/-- The members of a table. -/
abbrev Branches := List (String × Tree)

/-- Changes the last item of a list, if there is one. -/
def changeLast {α : Type} (change : α → Option α) : List α → Option (List α)
  | [] => none
  | [item] => (change item).map ([·])
  | item :: next :: rest => (changeLast change (next :: rest)).map (item :: ·)

/-- Changes the table that the keys of a header lead to. In a list of tables
they lead to the last one. -/
def changeAt (change : Branches → Option Branches) : List String → Branches → Option Branches
  | [], branches => change branches
  | key :: path, branches =>
    match lookupEntry key branches with
    | some (.table origin inner) =>
      (changeAt change path inner).map fun inner => insertSorted key (.table origin inner) branches
    | some (.tables items) =>
      (changeLast (changeAt change path) items).map fun items =>
        insertSorted key (.tables items) branches
    | _ => none

/-- Goes to the table that the first keys of a header lead to, making those
that are missing, and changes it by the last key. -/
def openAt (change : String → Branches → Option Branches) : List String → Branches → Option Branches
  | [], _ => none
  | [key], branches => change key branches
  | key :: next :: path, branches =>
    match lookupEntry key branches with
    | none =>
      (openAt change (next :: path) []).map fun inner =>
        insertSorted key (.table .implied inner) branches
    | some (.table origin inner) =>
      (openAt change (next :: path) inner).map fun inner =>
        insertSorted key (.table origin inner) branches
    | some (.tables items) =>
      (changeLast (openAt change (next :: path)) items).map fun items =>
        insertSorted key (.tables items) branches
    | some (.setting _) => none

/-- Makes the table of a header, which may be implied so far but must not have
been made otherwise. -/
def openTable (path : List String) (branches : Branches) : Option Branches :=
  openAt (fun key branches =>
    match lookupEntry key branches with
    | none => some (insertSorted key (.table .header []) branches)
    | some (.table .implied inner) => some (insertSorted key (.table .header inner) branches)
    | _ => none) path branches

/-- Adds a table to the list of tables of a header. -/
def addTable (path : List String) (branches : Branches) : Option Branches :=
  openAt (fun key branches =>
    match lookupEntry key branches with
    | none => some (insertSorted key (.tables [[]]) branches)
    | some (.tables items) => some (insertSorted key (.tables (items ++ [[]])) branches)
    | _ => none) path branches

/-- Puts a setting under dotted keys; `mayEnd` says whether the table that has
been reached takes the last key. No key is used twice. -/
def put (setting : Setting) (mayEnd : Bool) : List String → Branches → Option Branches
  | [], _ => none
  | [key], branches =>
    if mayEnd && (lookupEntry key branches).isNone then
      some (insertSorted key (.setting setting) branches)
    else none
  | key :: next :: path, branches =>
    match lookupEntry key branches with
    | none =>
      (put setting true (next :: path) []).map fun inner =>
        insertSorted key (.table .dotted inner) branches
    | some (.table .dotted inner) =>
      (put setting true (next :: path) inner).map fun inner =>
        insertSorted key (.table .dotted inner) branches
    | some (.table .implied inner) =>
      (put setting false (next :: path) inner).map fun inner =>
        insertSorted key (.table .implied inner) branches
    | some (.tables items) =>
      (changeLast (put setting false (next :: path)) items).map fun items =>
        insertSorted key (.tables items) branches
    | some (.table .header _) | some (.setting _) => none

mutual

/-- The setting that a tree is. -/
def Tree.toSetting : Tree → Setting
  | .setting s => s
  | .table _ members => .table (toTable members)
  | .tables items => .list (toTables items)

/-- The members of a table. -/
def toTable : List (String × Tree) → Table
  | [] => []
  | (key, tree) :: rest => (key, tree.toSetting) :: toTable rest

/-- The tables of a list. -/
def toTables : List (List (String × Tree)) → List Setting
  | [] => []
  | members :: rest => .table (toTable members) :: toTables rest

end

end EntityGraph.Config.Toml
