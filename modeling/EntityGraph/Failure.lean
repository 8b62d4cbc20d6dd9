import EntityGraph.Config.Fault
import EntityGraph.Number.Numeral
import EntityGraph.Json.Writing
/-!
# Failures

Everything that can go wrong, each by its cause, and the wording of each. A
failure reported by the database is told apart from one of the library's own:
`Failure.isExecution`.
-/

namespace EntityGraph

open Number (NumeralFault)

/-- Why a JSON value cannot be read as a value of a kind. -/
inductive ConversionFault where
  /-- Null for a field that has no null. -/
  | nullValue
  /-- A JSON value of a form that the kind does not take. -/
  | expected (what : String) (got : Json)
  /-- A number outside the range of integers. -/
  | integerRange (number : Json)
  /-- A text that is no integer. -/
  | integerText (text : String) (fault : NumeralFault)
  /-- A text that is no floating-point number. -/
  | floatText (text : String) (fault : NumeralFault)
  /-- A text that is no timestamp. -/
  | datetimeText (text : String)
  /-- A text that names no variant. -/
  | unknownVariant (text : String)
  /-- A number that is no place in the list of variants. -/
  | variantIndex (number : Json)
  /-- A place after the last variant. -/
  | variantRange (index : Nat)
deriving DecidableEq

/-- The wording of a conversion fault. -/
def ConversionFault.message : ConversionFault → String
  | .nullValue => "null for non-nullable field"
  | .expected what got => "expected " ++ what ++ ", got " ++ got.compact
  | .integerRange number => "integer out of range: " ++ number.compact
  | .integerText text fault => "invalid integer '" ++ text ++ "': " ++ fault.message
  | .floatText text fault => "invalid float '" ++ text ++ "': " ++ fault.message
  | .datetimeText text => "invalid datetime '" ++ text ++ "'"
  | .unknownVariant text => "unknown variant '" ++ text ++ "'"
  | .variantIndex number => "invalid enum index " ++ number.compact
  | .variantRange index => "enum index " ++ toString index ++ " out of range"

/-- Why an argument is not accepted. -/
inductive ArgumentFault where
  /-- A text that must be a name and is none. -/
  | notAName (what value : String)
  /-- A relationship field without relationship types. -/
  | noRelationshipTypes
  /-- A filter on a relationship field whose linked nodes are not recognised
  by any property. -/
  | noTargetField (field : String)
  /-- A look-up by a relationship field. -/
  | relationshipLookUp (field : String)
  /-- A look-up by a field that the entity type does not have. -/
  | unknownField (field label : String)
  /-- A statement that returns all variables without naming them. -/
  | returnsAll
  /-- A statement that cannot be divided into tokens and clauses. -/
  | malformedStatement
deriving DecidableEq, Repr

/-- The wording of the refusal to return all variables. -/
def returnsAllMessage : String :=
  "RETURN * is not supported - please specify columns explicitly"

/-- The wording of an argument fault. -/
def ArgumentFault.message : ArgumentFault → String
  | .notAName what value =>
    "invalid " ++ what ++ " '" ++ value ++ "': expected letters, digits and underscores"
  | .noRelationshipTypes => "relationship field declares no relationship types"
  | .noTargetField field => "relationship filter '" ++ field ++ "' has no target field"
  | .relationshipLookUp field =>
    "'" ++ field ++ "' is a relationship field and has no stored value"
  | .unknownField field label => "unknown field '" ++ field ++ "' on " ++ label
  | .returnsAll => returnsAllMessage
  | .malformedStatement => "Cypher syntax error"

/-- What is wrong with an answer of the database. -/
inductive InternalFault where
  /-- A column whose value does not decode. -/
  | undecodableColumn (column : String)
  /-- A property whose value does not decode. -/
  | undecodableProperty (property : String)
  /-- A property that the node does not have. -/
  | missingProperty (property : String)
  /-- A creation that gave no node back. -/
  | createdNothing (label : String)
deriving DecidableEq, Repr

/-- The wording of an internal fault. -/
def InternalFault.message : InternalFault → String
  | .undecodableColumn column => "failed to deserialize column '" ++ column ++ "'"
  | .undecodableProperty property => "failed to deserialize property '" ++ property ++ "'"
  | .missingProperty property => "property not found: " ++ property
  | .createdNothing label => "create returned no " ++ label ++ " node"

/-- What can go wrong. -/
inductive Failure where
  /-- The database cannot be reached or refuses the connection. -/
  | connection
  /-- A statement that the database rejects or breaks off. -/
  | query (message statement : String)
  /-- A row lacks a column. -/
  | missingColumn (column : String)
  /-- An argument is not accepted. -/
  | argument (fault : ArgumentFault)
  /-- A value of a field cannot be read. -/
  | conversion (field : String) (fault : ConversionFault)
  /-- The configuration cannot be used. -/
  | config (fault : Config.Fault)
  /-- An answer of the database is not what it should be. -/
  | internal (fault : InternalFault)
deriving DecidableEq

/-- The wording of a failure. -/
def Failure.message : Failure → String
  | .connection => "Neo4j connection error"
  | .query message _ => "Neo4j query error: " ++ message
  | .missingColumn column => "Row does not contain column '" ++ column ++ "'"
  | .argument fault => "Invalid argument: " ++ fault.message
  | .conversion field fault => "Cannot convert field '" ++ field ++ "': " ++ fault.message
  | .config fault => "Configuration error: " ++ fault.message
  | .internal fault => "Internal error: " ++ fault.message

/-- The wording of a failure when all settings come from environment
variables. -/
def Failure.variableMessage : Failure → String
  | .config fault => "Configuration error: " ++ fault.variableMessage
  | other => other.message

/-- Whether a failure was reported by the database. -/
def Failure.isExecution : Failure → Bool
  | .connection | .query _ _ => true
  | _ => false

end EntityGraph
