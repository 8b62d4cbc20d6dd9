import EntityGraph.Search.Request
import EntityGraph.Statement.Node
/-!
# Search statements

The statements for one page of a search, for the number of all its matches,
and for a free-text search. Page and number start with the same lines and bind
the same parameters (`matching`), so they speak of the same entities.
-/

namespace EntityGraph.Statement

/-- What a filter adds to a statement. -/
structure FilterClause where
  /-- The line that matches the linked nodes, for a filter on a relationship. -/
  matching : Option String := none
  condition : String
  parameter : String
  value : Json
deriving DecidableEq

/-- The condition that a node is linked to one that has one of some texts. -/
def linkedClause (field : Field) (link : Link) (parameter : String) (texts : List String) :
    Except ArgumentFault FilterClause := do
  let some targetField := link.targetField | .error (.noTargetField field.name)
  let targetField ← Identifier.ofText "target field" targetField
  let target ← NodePattern.withLabel ("target_" ++ parameter) link.targetLabel
  let types ← identifyTypes link.types
  let edge : EdgePattern :=
    { source := { variableName := "n" }, types, direction := link.direction, target }
  return { matching := some ("MATCH " ++ edge.text)
           condition := "toLower(" ++ target.variableName ++ "." ++ targetField.text ++ ") IN $"
             ++ parameter
           parameter
           value := .ofTexts (texts.map Text.lower) }

/-- The condition that a filter puts on a stored property. -/
def storedClause (storedName : Identifier) (parameter : String) : FilterValue → FilterClause
  | .text s =>
    { condition := "toLower(n." ++ storedName.text ++ ") CONTAINS $" ++ parameter
      parameter
      value := .str (Text.lower s) }
  | .oneOf texts =>
    { condition := "n." ++ storedName.text ++ " IN $" ++ parameter
      parameter
      value := .ofTexts texts }
  | .enum variant => equal (.str variant)
  | .integer n => equal (.int n)
  | .float x => equal (.ofFloat x)
  | .boolean b => equal (.bool b)
  | .datetime t => equal (.str t.toText)
where
  equal (value : Json) : FilterClause :=
    { condition := "n." ++ storedName.text ++ " = $" ++ parameter, parameter, value }

/-- What an active filter adds to a statement. -/
def filterClause (f : Filter) : Except ArgumentFault FilterClause := do
  let parameter ← Identifier.ofText "filter parameter" f.parameter
  match f.value, f.field.link with
  | .oneOf texts, some link => linkedClause f.field link parameter.text texts
  | value, _ =>
    let storedName ← Identifier.ofText "field" f.field.storedName
    return storedClause storedName parameter.text value

/-- The condition that a text is found in one of some fields. -/
def textCondition (fields : List Identifier) : String :=
  "(" ++ Text.join " OR "
    (fields.map fun field => "toLower(toString(n." ++ field.text ++ ")) CONTAINS $text_search")
    ++ ")"

/-- The condition and the parameter that the free text of a request adds, if
there is text and a field to look for it in. -/
def textClause (s : Schema) (r : SearchRequest) :
    Except ArgumentFault (Option (String × String)) :=
  match r.soughtText with
  | none => .ok none
  | some sought =>
    let fields := r.effectiveFields s
    if fields.isEmpty then .ok none
    else
      (fields.mapM (Identifier.ofText "searchable field")).map fun names =>
        some (textCondition names, Text.lower sought)

/-- The lines that select the entities of a request, and their parameters. -/
structure Matching where
  lines : List String
  parameters : Bag Json
deriving DecidableEq

/-- The line that joins conditions, if there are any. -/
def whereLines (conditions : List String) : List String :=
  if conditions.isEmpty then [] else ["WHERE " ++ Text.join " AND " conditions]

/-- **What selects the entities of a request:** the nodes of the label, the
nodes linked to them that filters speak of, and one line of conditions. -/
def matching (s : Schema) (r : SearchRequest) : Except ArgumentFault Matching := do
  let text ← textClause s r
  let clauses ← r.activeFilters.mapM filterClause
  let label ← Identifier.ofText "label" s.label
  let guard := if r.includeDeleted then [] else [notDeleted]
  let conditions := guard ++ text.toList.map Prod.fst ++ clauses.map (·.condition)
  return { lines := ("MATCH " ++ (labelled label).text)
             :: (clauses.filterMap (·.matching) ++ whereLines conditions)
           parameters := Bag.ofList (text.toList.map (fun t => ("text_search", Json.str t.2))
             ++ clauses.map fun c => (c.parameter, c.value)) }

/-- What a relationship field adds to a search. -/
structure LinkClause where
  matching : String
  /-- What gathers the linked nodes. -/
  expression : String
  column : String
deriving DecidableEq

/-- What a relationship field adds to a search: its linked nodes, one of them,
or their number. -/
def linkClause (field : Field) (link : Link) : Except ArgumentFault LinkClause := do
  let lowerName ← Identifier.ofText "relationship field" field.lowerName
  let types ← identifyTypes link.types
  let target ← NodePattern.withLabel ("rel_" ++ lowerName.text) link.targetLabel
  let edge : EdgePattern :=
    { source := { variableName := "n" }, types, direction := link.direction, target }
  let gathered :=
    match link.cardinality with
    | .count => ("count(DISTINCT " ++ target.variableName ++ ")", field.collectionAlias)
    | .collection => ("collect(DISTINCT " ++ target.variableName ++ ")", field.collectionAlias)
    | .single => ("head(collect(DISTINCT " ++ target.variableName ++ "))", lowerName.text)
  return { matching := "OPTIONAL MATCH " ++ edge.text
           expression := gathered.1
           column := gathered.2 }

/-- What the relationship fields of a schema add to a search. -/
def linkClauses (s : Schema) : Except ArgumentFault (List LinkClause) :=
  (s.relationships.filterMap fun field => field.link.map fun link => (field, link)).mapM
    fun (field, link) => linkClause field link

/-- The lines that gather the linked nodes of each entity and return them with
it. They come before order and page, so that these count entities and not
linked nodes. -/
def linkedProjection (clauses : List LinkClause) : List String :=
  clauses.map (·.matching)
    ++ ["WITH " ++ Text.join ", " ("n" :: clauses.map fun c => c.expression ++ " AS " ++ c.column),
      "RETURN DISTINCT " ++ Text.join ", " ("n" :: clauses.map (·.column))]

/-- The lines that return the entities of a search. -/
def projection (s : Schema) (withLinks : Bool) : Except ArgumentFault (List String) :=
  if withLinks && s.hasRelationships then (linkClauses s).map linkedProjection
  else .ok ["RETURN DISTINCT n"]

/-- The line that orders the entities of a search, if it has an order. -/
def orderLines (r : SearchRequest) : Except ArgumentFault (List String) :=
  match r.soughtOrder with
  | none => .ok []
  | some order =>
    (Identifier.ofText "order field" order).map fun field =>
      ["ORDER BY n." ++ field.text ++ " " ++ if r.descending then "DESC" else "ASC"]

/-- A line with a number, unless it is zero. -/
def numberLine (word : String) (number : UInt64) : List String :=
  if number = 0 then [] else [word ++ " " ++ toString number.toNat]

/-- The statement for the matches of a request from the entity number `skip`
on, at most `limit` of them. -/
def results (s : Schema) (r : SearchRequest) (skip limit : UInt64) (withLinks : Bool) :
    Except ArgumentFault Statement := do
  let matched ← matching s r
  let projected ← projection s withLinks
  let ordered ← orderLines r
  return Statement.mk
    (Text.unlines (matched.lines
      ++ (projected ++ ordered ++ numberLine "SKIP" skip ++ numberLine "LIMIT" limit)))
    matched.parameters

/-- **The statement for one page of a search,** with the linked nodes of each
entity if its type has relationship fields. -/
def search (s : Schema) (r : SearchRequest) : Except ArgumentFault Statement :=
  results s r r.skip r.pageSize.toUInt64 true

/-- **The statement for the number of all matches,** as `total_count`. -/
def count (s : Schema) (r : SearchRequest) : Except ArgumentFault Statement := do
  let matched ← matching s r
  return Statement.mk
    (Text.unlines (matched.lines ++ ["RETURN count(DISTINCT n) AS total_count"]))
    matched.parameters

/-- The statement for the entities in which a text is found, newest first and
without linked nodes. -/
def textSearch (s : Schema) (term : String) (skip limit : Option UInt64) :
    Except ArgumentFault Statement :=
  results s ({ pageSize := 0 : SearchRequest }.withText term) (skip.getD 0) (limit.getD 0) false

end EntityGraph.Statement
