import EntityGraph.Bag
import EntityGraph.Config.Fault
/-!
# Settings

The values that configuration files and environment variables hold, before
anything is known about what they are for, and how one layer of settings is
laid over another: tables are merged key by key, and any other setting stands
in the place of the one below it.
-/

namespace EntityGraph.Config

open Number (Binary64)

/-- The value of a setting. Members of tables are in ascending order of
keys. -/
inductive Setting where
  | bool (b : Bool)
  /-- An integer that was written as a signed one. -/
  | signed (n : Int)
  /-- An integer that was written as an unsigned one. -/
  | unsigned (n : Int)
  | float (x : Binary64)
  | text (s : String)
  | list (items : List Setting)
  | table (members : List (String × Setting))

/-- The members of a table. -/
abbrev Table := List (String × Setting)

namespace Setting

instance : Inhabited Setting := ⟨table []⟩

/-- What a message says was found. -/
def found : Setting → Found
  | bool b => .bool b
  | signed n => .signed n
  | unsigned n => .unsigned n
  | float x => .float x
  | text s => .text s
  | list _ => .sequence
  | table _ => .map

/-- The members of a setting that is a table. -/
def members : Option Setting → Table
  | some (table members) => members
  | _ => []

mutual

/-- A setting laid over the one below it. -/
def laidOver (below : Option Setting) : Setting → Setting
  | table above => table (layTable (members below) above)
  | bool b => bool b
  | signed n => signed n
  | unsigned n => unsigned n
  | float x => float x
  | text s => text s
  | list items => list items

/-- The members of a table laid over those of the table below it. -/
def layTable (below : Table) : Table → Table
  | [] => below
  | (key, setting) :: above =>
    layTable (insertSorted key (laidOver (lookupEntry key below) setting) below) above

end

end Setting

end EntityGraph.Config
