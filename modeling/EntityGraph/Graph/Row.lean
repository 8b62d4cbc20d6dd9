import EntityGraph.Graph.Node
/-!
# Rows

The rows that statements return: bags of columns. A stream of rows may break
off with a failure at any row.
-/

namespace EntityGraph

/-- A row of a result. -/
structure Row where
  columns : Bag Json := .empty
deriving DecidableEq

namespace Row

variable {α : Type}

/-- Reads a column that is there. -/
def decodeColumn (decoder : Decoder α) (column : String) (value : Json) : Except Failure α :=
  match decoder value with
  | some a => .ok a
  | none => .error (.internal (.undecodableColumn column))

/-- A column that the row must have. -/
def get (r : Row) (decoder : Decoder α) (column : String) : Except Failure α :=
  match r.columns.get? column with
  | some value => decodeColumn decoder column value
  | none => .error (.missingColumn column)

/-- A column that may be missing or null. -/
def getOpt (r : Row) (decoder : Decoder α) (column : String) : Except Failure (Option α) :=
  match r.columns.get? column with
  | none | some .null => .ok none
  | some value => (decodeColumn decoder column value).map some

/-- The nodes of a column that holds a list of them, or none. -/
def relatedNodes (r : Row) (column : String) : List Node :=
  match r.getOpt (Decode.list Decode.node) column with
  | .ok (some nodes) => nodes
  | _ => []

/-- The node of a column that holds one. -/
def relatedNode? (r : Row) (column : String) : Option Node :=
  match r.getOpt Decode.node column with
  | .ok found => found
  | .error _ => none

end Row

/-- Rows as they come, each of which may be a failure instead. -/
abbrev RowStream := List (Except Failure Row)

namespace RowStream

/-- All rows of a stream, or its first failure. -/
def collect : RowStream → Except Failure (List Row)
  | [] => .ok []
  | .error failure :: _ => .error failure
  | .ok row :: rest => (collect rest).map (row :: ·)

/-- The first row of a stream, if it has one. -/
def first : RowStream → Except Failure (Option Row)
  | [] => .ok none
  | .error failure :: _ => .error failure
  | .ok row :: _ => .ok (some row)

end RowStream

end EntityGraph
