import EntityGraph.Proofs.Session.Plan
import EntityGraph.Repository
/-!
# Operations

Everything that a repository can be asked for, with the arguments it takes, so
that a law of all operations is one statement about them. Each operation is a
plan: it builds its statements of its arguments alone, and what it gives is
read from their rows (`session_eq`).
-/

namespace EntityGraph

/-- **What a repository can be asked for,** by the type of what it gives. -/
inductive Operation (α : Type) : Type → Type 1 where
  | create (entity : α) : Operation α α
  | findById (id : String) : Operation α (Option α)
  | findByField (field : String) (value : Json) : Operation α (Option α)
  | page (request : SearchRequest) : Operation α (Page α)
  | all : Operation α (Page α)
  | search (term : String) (skip limit : Option UInt64) : Operation α (List α)
  | count (request : SearchRequest) : Operation α Int
  | countAll : Operation α Int
  /-- A statement of the caller, and its rows. -/
  | query (statement : Statement) : Operation α (List Row)
  | entitiesOf (statement : Statement) : Operation α (List α)
  | relatedWith {β : Type} (converter : Converter β) (id type : String) (direction : Direction)
      (targetLabel : Option String) : Operation α (List β)
  | related (β : Type) [Entity β] (id type : String) (direction : Direction)
      (targetLabel : Option String) : Operation α (List β)
  | edges (id type : String) (direction : Direction) : Operation α (List Row)
  | delete (id : String) : Operation α Bool
  | detachDelete (id : String) : Operation α Bool
  | update (id : String) (entity : α) : Operation α (Option α)
  | link (sourceId type targetId : String) (direction : Direction) : Operation α Bool
  | syncLinks (sourceId type : String) (targetIds : List String) (direction : Direction) :
      Operation α Int
  | planSync (sourceId type : String) (targetIds : List String) (direction : Direction) :
      Operation α Delta

namespace Operation

variable {α ρ : Type} [Entity α]

/-- The operation as the repository runs it. -/
def session (repo : Repository α) : Operation α ρ → Session ρ
  | create entity => repo.create entity
  | findById id => repo.findById id
  | findByField field value => repo.findByField field value
  | page request => repo.page request
  | all => repo.all
  | search term skip limit => repo.search term skip limit
  | count request => repo.count request
  | countAll => repo.countAll
  | query statement => Session.fetchAll statement
  | entitiesOf statement => repo.entitiesOf statement
  | relatedWith converter id type direction targetLabel =>
    repo.relatedWith converter id type direction targetLabel
  | related β id type direction targetLabel => repo.related β id type direction targetLabel
  | edges id type direction => repo.edges id type direction
  | delete id => repo.delete id
  | detachDelete id => repo.detachDelete id
  | update id entity => repo.update id entity
  | link sourceId type targetId direction => repo.link sourceId type targetId direction
  | syncLinks sourceId type targetIds direction =>
    repo.syncLinks sourceId type targetIds direction
  | planSync sourceId type targetIds direction => repo.planSync sourceId type targetIds direction

/-- The page statement of a request and the one that counts its matches. -/
def pageStatements (s : Schema) (request : SearchRequest) :
    Except ArgumentFault (Statement × Statement) := do
  let search ← Statement.search s request
  let count ← Statement.count s request
  return (search, count)

/-- A page of the rows and the number of all matches. -/
def readPage (repo : Repository α) (rows : List Row) (total : Int) : Except Failure (Page α) :=
  (repo.convertAll rows).map fun items => { items, total }

/-- The entity that was stored. -/
def readCreated (repo : Repository α) (rows : List Row) : Except Failure α :=
  (repo.convertFirst rows).bind fun created =>
    created.elim (.error (.internal (.createdNothing repo.label))) .ok

/-- The linked entities of the rows. -/
def readLinked {β : Type} (converter : Converter β) (rows : List Row) :
    Except Failure (List β) :=
  rows.mapM fun row : Row => (row.get Decode.node "target").map converter.fromNode

/-- Whether the first row gives an identifier back. -/
def readDeleted (id : String) : List Row → Except Failure Bool
  | [] => .ok false
  | row :: _ => (row.getOpt Decode.text "id").map fun returned => returned == some id

/-- What linking to exactly the given targets would change. -/
def readDelta (targetIds : List String) (rows : List Row) : Except Failure Delta :=
  (rows.mapM fun row : Row => (row.get Decode.node "target").map (·.id)).map fun current =>
    Delta.between (.ofList current) (.ofList targetIds)

/-- A page of the entities that a request selects, as a plan. -/
def pagePlan (repo : Repository α) (request : SearchRequest) : Plan (Page α) :=
  .two (pageStatements repo.schema request) (Repository.firstNumber "total_count") (readPage repo)

/-- **The operation as a plan:** the statements that it builds, and what it
reads from their rows. -/
def plan (repo : Repository α) : Operation α ρ → Plan ρ
  | create entity =>
    .one (Statement.createNode repo.label (repo.converter.toProperties entity)) (readCreated repo)
  | findById id => .one (Statement.findById repo.label id) repo.convertFirst
  | findByField field value =>
    .one ((repo.resolveStoredName field).bind fun storedName =>
      Statement.findByField repo.label storedName value) repo.convertFirst
  | page request => pagePlan repo request
  | all => pagePlan repo { pageSize := 0 }
  | search term skip limit =>
    .one (Statement.textSearch repo.schema term skip limit) repo.convertAll
  | count request =>
    .one (Statement.count repo.schema request) (Repository.firstNumber "total_count")
  | countAll => .one (Statement.count repo.schema {}) (Repository.firstNumber "total_count")
  | query statement => .one (.ok statement) .ok
  | entitiesOf statement => .one (.ok statement) repo.convertAll
  | relatedWith converter id type direction targetLabel =>
    .one (Statement.linkedNodes repo.label id type direction targetLabel) (readLinked converter)
  | related β id type direction targetLabel =>
    .one (Statement.linkedNodes repo.label id type direction targetLabel)
      (readLinked (.standard β))
  | edges id type direction => .one (Statement.edgesOf repo.label id type direction) .ok
  | delete id => .one (Statement.softDelete repo.label id) (readDeleted id)
  | detachDelete id =>
    .one (Statement.detachDelete repo.label id) fun rows =>
      (Repository.firstNumber "deleted_count" rows).map fun removed => decide (0 < removed)
  | update id entity =>
    .one (Statement.updateNode repo.label id (repo.converter.toProperties entity))
      repo.convertFirst
  | link sourceId type targetId direction =>
    .one (Statement.mergeEdge sourceId type targetId direction) fun rows => .ok (!rows.isEmpty)
  | syncLinks sourceId type targetIds direction =>
    .one (Statement.syncEdges sourceId type targetIds direction)
      (Repository.firstNumber "synced_count")
  | planSync sourceId type targetIds direction =>
    .one (Statement.edgesOf repo.label sourceId type direction) (readDelta targetIds)

/-! ### Running an operation is running its plan -/

theorem fetchAll_bind (statement : Statement) {read : List Row → Except Failure ρ}
    {next : List Row → Session ρ} (h : ∀ rows, next rows = .done (read rows)) :
    (Session.fetchAll statement).bind next = .ask statement read := by
  have hnext : next = fun rows => .done (read rows) := funext h
  rw [hnext]
  exact congrArg (Session.fetch statement) (funext fun answer => Session.bind_done _ read)

theorem fetchAll_eq_ask (statement : Statement) : Session.fetchAll statement = .ask statement .ok :=
  congrArg (Session.fetch statement) (funext fun answer =>
    congrArg Session.done (bind_pure (collected answer)).symm)

/-- A session that builds a statement and asks for its rows. -/
theorem session_ask (statement : Except ArgumentFault Statement)
    {read : List Row → Except Failure ρ} {next : Statement → Session ρ}
    (h : ∀ st, next st = .ask st read) :
    (Session.ofArguments statement).bind next = (Plan.one statement read).session := by
  cases statement with
  | error fault => rfl
  | ok statement => exact h statement

/-- A session that builds a statement and goes on with its rows. -/
theorem session_one (statement : Except ArgumentFault Statement)
    {read : List Row → Except Failure ρ} {next : List Row → Session ρ}
    (h : ∀ rows, next rows = .done (read rows)) :
    (Session.ofArguments statement).bind (fun st => (Session.fetchAll st).bind next) =
      (Plan.one statement read).session :=
  session_ask statement fun st => fetchAll_bind st h

theorem session_page (repo : Repository α) (request : SearchRequest) :
    repo.page request = (pagePlan repo request).session := by
  unfold pagePlan Repository.page pageStatements
  cases Statement.search repo.schema request with
  | error fault => rfl
  | ok search =>
    cases Statement.count repo.schema request with
    | error fault => rfl
    | ok count =>
      have hcount : Repository.fetchCount count =
          .ask count (Repository.firstNumber "total_count") := fetchAll_bind count fun _ => rfl
      have hitems (rows : List Row) (total : Int) : (Session.ofExcept (repo.convertAll rows)).bind
          (fun items => .done (.ok (Page.mk items total))) = .done (readPage repo rows total) :=
        Session.bind_done _ _
      change (Session.fetchAll search).bind (fun rows => (Repository.fetchCount count).bind
        fun total => (Session.ofExcept (repo.convertAll rows)).bind
          fun items => .done (.ok (Page.mk items total))) = _
      simp only [fetchAll_eq_ask, hcount, hitems]
      rfl

/-- **What the repository runs is the plan,** one statement after the other. -/
theorem session_eq (repo : Repository α) (op : Operation α ρ) :
    op.session repo = (op.plan repo).session := by
  cases op with
  | create entity =>
    refine session_one _ fun rows => ?_
    rw [readCreated]
    rcases repo.convertFirst rows with failure | _ | created <;> rfl
  | findById id => exact session_one _ fun _ => rfl
  | findByField field value =>
    simp only [session, plan, Repository.findByField]
    cases repo.resolveStoredName field with
    | error fault => rfl
    | ok storedName => exact session_one _ fun _ => rfl
  | page request => exact session_page repo request
  | all => exact session_page repo _
  | search term skip limit => exact session_one _ fun _ => rfl
  | count request => exact session_ask _ fun st => fetchAll_bind st fun _ => rfl
  | countAll => exact session_ask _ fun st => fetchAll_bind st fun _ => rfl
  | query statement => exact fetchAll_eq_ask statement
  | entitiesOf statement => exact session_one (.ok statement) fun _ => rfl
  | relatedWith converter id type direction targetLabel => exact session_one _ fun _ => rfl
  | related β id type direction targetLabel => exact session_one _ fun _ => rfl
  | edges id type direction => exact session_ask _ fetchAll_eq_ask
  | delete id =>
    refine session_one _ fun rows => ?_
    cases rows with
    | nil => rfl
    | cons row _ => exact Session.bind_done _ _
  | detachDelete id => exact session_one _ fun _ => Session.bind_done _ _
  | update id entity => exact session_one _ fun _ => rfl
  | link sourceId type targetId direction => exact session_one _ fun _ => rfl
  | syncLinks sourceId type targetIds direction => exact session_one _ fun _ => rfl
  | planSync sourceId type targetIds direction =>
    simp only [session, plan, Repository.planSync, Repository.edges]
    cases Statement.edgesOf repo.label sourceId type direction with
    | error fault => rfl
    | ok statement => exact fetchAll_bind statement fun rows => Session.bind_done _ _

end Operation

end EntityGraph
