import EntityGraph.Json.Basic
/-!
# Statements

The text of a query and the values of its parameters. Values travel as
parameters and never as part of the text.
-/

namespace EntityGraph

/-- A statement for the database. -/
structure Statement where
  text : String
  parameters : Bag Json := .empty
deriving DecidableEq

namespace Statement

/-- The statement with a parameter bound, in the place of what the parameter
was bound to before. -/
def bind (s : Statement) (name : String) (value : Json) : Statement :=
  { s with parameters := s.parameters.insert name value }

/-- The statement with a parameter bound to a text. -/
def bindText (s : Statement) (name value : String) : Statement :=
  s.bind name (.str value)

/-- The statement with a parameter bound to a value, or to null if the value
has no JSON form. -/
def bindOption (s : Statement) (name : String) (value : Option Json) : Statement :=
  s.bind name (value.getD .null)

/-- The statement with a parameter bound to a floating-point number, or to null
if the number is not finite. -/
def bindFloat (s : Statement) (name : String) (value : Number.Binary64) : Statement :=
  s.bind name (.ofFloat value)

/-- The statement with other parameters in the place of its own. -/
def withParameters (s : Statement) (parameters : Bag Json) : Statement :=
  { s with parameters }

end Statement

end EntityGraph
