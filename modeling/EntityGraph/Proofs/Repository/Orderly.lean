import EntityGraph.Proofs.Repository.Operation
import EntityGraph.Proofs.Statement.Paging
import EntityGraph.Social.Basic
/-!
# Nothing invalid is sent and nothing partial comes back

Whatever an executor answers, an operation of a repository sends no statement
but its own, and none if its arguments are not accepted; a failure of the
database is its outcome; and a list of entities has one for every row, in
order, or is not given at all (`isOrderly`). The page of a search and the number
of its matches are asked for side by side, so this is a law of every order in
which the two may be sent and answered.
-/

namespace EntityGraph

/-! ### Converters that read nodes -/

/-- A converter has an entity for a row exactly when it finds a node in the
column. -/
def Converter.ReadsNodes {α : Type} (c : Converter α) : Prop :=
  ∀ (row : Row) column, ∃ read : Node → α,
    c.fromRow row column = (row.get Decode.node column).map read

theorem Converter.readsNodes_ofSchema {α : Type} [Entity α] (s : Schema) :
    (Converter.ofSchema s : Converter α).ReadsNodes :=
  fun _ _ => ⟨_, rfl⟩

/-- What is added to an entity from other columns does not matter. -/
theorem Converter.ReadsNodes.map {α : Type} {c c' : Converter α} (h : c.ReadsNodes)
    (hadd : ∀ row column, ∃ add : α → α, c'.fromRow row column = (c.fromRow row column).map add) :
    c'.ReadsNodes := by
  intro row column
  obtain ⟨read, hread⟩ := h row column
  obtain ⟨add, hadd⟩ := hadd row column
  refine ⟨add ∘ read, ?_⟩
  rw [hadd, hread]
  cases row.get Decode.node column <;> rfl

theorem Social.User.readsNodes_converter : Social.User.converter.ReadsNodes :=
  (Converter.readsNodes_ofSchema _).map fun _ _ => ⟨_, rfl⟩

theorem Social.Post.readsNodes_converter : Social.Post.converter.ReadsNodes :=
  (Converter.readsNodes_ofSchema _).map fun _ _ => ⟨_, rfl⟩

/-! ### Names that nothing is looked up by -/

namespace Repository

variable {α : Type} [Entity α]

/-- A name that nothing can be looked up by: that of a relationship field, the
identifier, or a name that is neither declared nor stored. -/
def IsOffLimits (repo : Repository α) (name : String) : Prop :=
  (∃ field, repo.schema.field? name = some field ∧ field.isRelationship = true) ∨
    name = "id" ∨
    (∀ field ∈ repo.schema.fields, field.name ≠ name) ∧
      (∀ field ∈ repo.schema.scalars, field.storedName ≠ name) ∧ name ∉ reservedNames

/-- No field has a reserved name or is stored under one. -/
theorem not_mem_reservedNames {repo : Repository α} {field : Field}
    (h : field ∈ repo.schema.fields) :
    field.name ∉ reservedNames ∧ field.storedName ∉ reservedNames := by
  have hkept : field.isReserved = false := by
    rcases List.mem_append.1 h with h | h
    · simpa using (List.mem_filter.1 (List.mem_filter.1 h).1).2
    · simpa using (List.mem_filter.1 (List.mem_filter.1 h).1).2
  simpa [Field.isReserved] using hkept

/-- A name of no field, under which nothing is stored, is that of a time or of
nothing. -/
theorem resolveStoredName_of_undeclared {repo : Repository α} {name : String}
    (hname : ∀ field ∈ repo.schema.fields, field.name ≠ name)
    (hstored : ∀ field ∈ repo.schema.scalars, field.storedName ≠ name)
    (htime : name ≠ "id" → name ∉ reservedNames) :
    repo.resolveStoredName name = .error (.unknownField name repo.label) := by
  have hfield : repo.schema.field? name = none := by simpa [Schema.field?] using hname
  have hscalar : repo.schema.scalars.find? (·.storedName == name) = none := by simpa using hstored
  have htime : ¬ (name != "id" && reservedNames.contains name) = true := by simpa using htime
  simp only [resolveStoredName, hfield, hscalar, if_neg htime]

/-- **Nothing can be looked up by a name that is off limits.** -/
theorem exists_fault_of_isOffLimits {repo : Repository α} {name : String}
    (h : repo.IsOffLimits name) : ∃ fault, repo.resolveStoredName name = .error fault := by
  obtain ⟨field, hfield, hlinked⟩ | rfl | ⟨hname, hstored, htime⟩ := h
  · exact ⟨.relationshipLookUp name, by simp only [resolveStoredName, hfield, if_pos hlinked]⟩
  · have hid : "id" ∈ reservedNames := by decide
    refine ⟨_, resolveStoredName_of_undeclared (fun field hmem heq => ?_) (fun field hmem heq => ?_)
      fun hne => absurd rfl hne⟩
    · exact (not_mem_reservedNames hmem).1 (heq ▸ hid)
    · exact (not_mem_reservedNames (List.mem_append_left _ hmem)).2 (heq ▸ hid)
  · exact ⟨_, resolveStoredName_of_undeclared hname hstored fun _ => htime⟩

end Repository

namespace Operation

variable {α ρ : Type} [Entity α]

/-- What can be seen of an operation up to some moment, and its outcome if it
has one by then. -/
def Shows (repo : Repository α) (op : Operation α ρ) (es : List Event)
    (o : Option (Except Failure ρ)) : Prop :=
  (op.plan repo).Shows es o

/-- The statements of an operation, unless an argument is not accepted. -/
def statements (repo : Repository α) (op : Operation α ρ) :
    Except ArgumentFault (List Statement) :=
  (op.plan repo).statements

/-- An operation whose arguments are off limits. -/
def IsOffLimits (repo : Repository α) : Operation α ρ → Prop
  | findByField field _ => repo.IsOffLimits field
  | _ => False

/-- The column of the nodes that a list of entities is read from. -/
def nodeColumn? : Operation α ρ → Option String
  | page .. | all | search .. | entitiesOf .. => some Repository.nodeColumn
  | relatedWith .. | related .. => some "target"
  | _ => none

/-- If the operation gives a list of entities then it is one entity for every
row, in order. -/
def Lists (repo : Repository α) : Operation α ρ → List Row → ρ → Prop
  | page _, rows, result | all, rows, result =>
    List.Forall₂ (fun row a => repo.converter.fromRow row Repository.nodeColumn = .ok a) rows
      result.items
  | search .., rows, result | entitiesOf _, rows, result =>
    List.Forall₂ (fun row a => repo.converter.fromRow row Repository.nodeColumn = .ok a) rows
      result
  | relatedWith converter .., rows, result =>
    List.Forall₂ (fun row b => (row.get Decode.node "target").map converter.fromNode = .ok b) rows
      result
  | related β .., rows, result =>
    List.Forall₂ (fun row b =>
      (row.get Decode.node "target").map (Converter.standard β).fromNode = .ok b) rows result
  | _, _, _ => True

/-- A list of entities is given whole or not at all. -/
structure GivesWhole (repo : Repository α) (op : Operation α ρ) (es : List Event)
    (o : Option (Except Failure ρ)) : Prop where
  /-- What is given lists all rows of the first statement. -/
  listed : ∀ result, o = some (.ok result) → ∃ statement rest rows,
    op.statements repo = .ok (statement :: rest) ∧
      .answered statement (.ok (rows.map .ok)) ∈ es ∧ op.Lists repo rows result
  /-- A row of it without a node is a failure of all. -/
  undecodable : ∀ column statement rest stream row, op.nodeColumn? = some column →
    op.statements repo = .ok (statement :: rest) → .answered statement (.ok stream) ∈ es →
    .ok row ∈ stream → (∀ node, row.get Decode.node column ≠ .ok node) →
    (answeredOf es).Perm (statement :: rest) → ∃ failure, o = some (.error failure)
  /-- There is no other failure but one of the database, of such a row, or of
  the number of matches. -/
  caused : ∀ column statement rest failure, op.nodeColumn? = some column →
    op.statements repo = .ok (statement :: rest) → o = some (.error failure) →
    (∃ st answer, .answered st answer ∈ es ∧ Reports answer failure) ∨
    (∃ rows : List Row, .answered statement (.ok (rows.map .ok)) ∈ es ∧
      ∃ row ∈ rows, row.get Decode.node column = .error failure) ∨
    ∃ st ∈ rest, ∃ rows : List Row, .answered st (.ok (rows.map .ok)) ∈ es ∧
      Repository.firstNumber "total_count" rows = .error failure

section Laws

variable {repo : Repository α} {op : Operation α ρ} {rows : List Row} {result : ρ}

theorem lists_of_reads (h : (op.plan repo).Reads rows (.ok result)) : op.Lists repo rows result := by
  cases op with
  | page _ | all =>
    obtain ⟨n, hpage⟩ := h
    obtain ⟨items, hitems, rfl⟩ := map_eq_ok.1 hpage
    exact forall₂_of_mapM hitems
  | search _ _ _ | entitiesOf _ => exact forall₂_of_mapM h
  | relatedWith _ _ _ _ _ | related _ _ _ _ _ => exact forall₂_of_mapM h
  | _ => trivial

/-- **A list of entities is read row by row,** each entity from the node of its
row. -/
theorem exists_read (hreads : repo.converter.ReadsNodes) {column : String}
    (hcolumn : op.nodeColumn? = some column) :
    ∃ (β : Type) (read : Row → Except Failure β),
      (∀ row, ∃ convert : Node → β, read row = (row.get Decode.node column).map convert) ∧
      (∀ rows result, (op.plan repo).Reads rows (.ok result) → ∃ items, rows.mapM read = .ok items) ∧
      ∀ rows failure, (op.plan repo).Reads rows (.error failure) → rows.mapM read = .error failure := by
  cases op with
  | page _ | all =>
    obtain rfl := Option.some.inj hcolumn
    refine ⟨α, _, fun row => hreads row _, ?_, ?_⟩
    · rintro rows result ⟨n, hpage⟩
      obtain ⟨items, hitems, -⟩ := map_eq_ok.1 hpage
      exact ⟨items, hitems⟩
    · rintro rows failure ⟨n, hpage⟩
      exact map_eq_error.1 hpage
  | search _ _ _ | entitiesOf _ =>
    obtain rfl := Option.some.inj hcolumn
    exact ⟨α, _, fun row => hreads row _, fun rows result h => ⟨result, h⟩, fun _ _ h => h⟩
  | relatedWith _ _ _ _ _ | related _ _ _ _ _ =>
    obtain rfl := Option.some.inj hcolumn
    exact ⟨_, _, fun row => ⟨_, rfl⟩, fun rows result h => ⟨result, h⟩, fun _ _ h => h⟩
  | _ => cases hcolumn

/-- A row without a node has no entity. -/
theorem exists_node_of_reads (hreads : repo.converter.ReadsNodes) {column : String}
    (hcolumn : op.nodeColumn? = some column) (h : (op.plan repo).Reads rows (.ok result)) {row : Row}
    (hrow : row ∈ rows) : ∃ node, row.get Decode.node column = .ok node := by
  obtain ⟨β, read, hread, hgives, -⟩ := exists_read hreads hcolumn
  obtain ⟨items, hitems⟩ := hgives rows result h
  obtain ⟨item, hitem⟩ := exists_of_mapM_eq_ok hitems hrow
  obtain ⟨convert, hconvert⟩ := hread row
  obtain ⟨node, hnode, -⟩ := map_eq_ok.1 (hconvert ▸ hitem)
  exact ⟨node, hnode⟩

/-- And only such a row leads to a failure. -/
theorem exists_row_of_reads (hreads : repo.converter.ReadsNodes) {column : String}
    (hcolumn : op.nodeColumn? = some column) {failure : Failure}
    (h : (op.plan repo).Reads rows (.error failure)) :
    ∃ row ∈ rows, row.get Decode.node column = .error failure := by
  obtain ⟨β, read, hread, -, hfails⟩ := exists_read hreads hcolumn
  obtain ⟨row, hrow, hfailure⟩ := exists_of_mapM_eq_error (hfails rows failure h)
  obtain ⟨convert, hconvert⟩ := hread row
  exact ⟨row, hrow, map_eq_error.1 (hconvert ▸ hfailure)⟩

theorem firstNumber_of_failsCounting {failure : Failure}
    (h : (op.plan repo).FailsCounting rows failure) :
    Repository.firstNumber "total_count" rows = .error failure := by
  cases op with
  | page _ | all => exact h
  | _ => exact absurd h id

theorem nodup_statements {sts : List Statement} (h : op.statements repo = .ok sts) :
    sts.Nodup := by
  have hpage {request : SearchRequest} (h : (pagePlan repo request).statements = .ok sts) :
      sts.Nodup := by
    obtain ⟨both, hboth, rfl⟩ := map_eq_ok.1 h
    obtain ⟨search, hsearch, hboth⟩ := bind_eq_ok.1 hboth
    obtain ⟨count, hcount, hboth⟩ := bind_eq_ok.1 hboth
    obtain rfl := pure_eq_ok.1 hboth
    simpa using Statement.search_ne_count hsearch hcount
  cases op with
  | page _ | all => exact hpage h
  | _ => exact Plan.nodup_one h

theorem givesWhole (hreads : repo.converter.ReadsNodes) {es : List Event}
    {o : Option (Except Failure ρ)} (h : op.Shows repo es o) : op.GivesWhole repo es o where
  listed := by
    rintro result rfl
    obtain ⟨statement, rest, rows, hsts, hmem, hgives⟩ := Plan.reads_of_ok h
    exact ⟨statement, rest, rows, hsts, hmem, lists_of_reads hgives⟩
  undecodable := by
    intro column statement rest stream row hcolumn hsts hmem hrow hnode hall
    have hkeeps := Plan.keepsTo_of_shows h hsts
    rcases o with _ | failure | result
    · exact absurd rfl (hkeeps.finished hall)
    · exact ⟨failure, rfl⟩
    · obtain ⟨_, _, rows, hsts', hmem', hgives⟩ := Plan.reads_of_ok h
      obtain ⟨rfl, rfl⟩ := List.cons.inj (Except.ok.inj (hsts.symm.trans hsts'))
      obtain rfl := Except.ok.inj (Plan.answer_unique h hsts (nodup_statements hsts) hmem hmem')
      obtain ⟨row', hrow', hok⟩ := List.mem_map.1 hrow
      obtain rfl := Except.ok.inj hok
      obtain ⟨node, hdecoded⟩ := exists_node_of_reads hreads hcolumn hgives hrow'
      exact absurd hdecoded (hnode node)
  caused := by
    rintro column statement rest failure hcolumn hsts rfl
    rcases Plan.reads_of_error h hsts with hdatabase | ⟨rows, hmem, hfails⟩ |
      ⟨st, hst, rows, hmem, hfails⟩
    · exact .inl hdatabase
    · exact .inr (.inl ⟨rows, hmem, exists_row_of_reads hreads hcolumn hfails⟩)
    · exact .inr (.inr ⟨st, hst, rows, hmem, firstNumber_of_failsCounting hfails⟩)

end Laws

/-- Looking something up by a name that is off limits is refused. -/
theorem exists_fault_of_isOffLimits {repo : Repository α} {op : Operation α ρ}
    (h : op.IsOffLimits repo) : ∃ fault, op.statements repo = .error fault := by
  cases op with
  | findByField field value =>
    obtain ⟨fault, hfault⟩ := Repository.exists_fault_of_isOffLimits h
    exact ⟨fault, by simp [statements, plan, hfault, Except.bind, Plan.statements, Except.map]⟩
  | _ => exact absurd h id

/-- **Nothing invalid is sent and nothing partial comes back.** What an executor
makes of an operation is something that can be seen of it. Whatever can be seen
of it, at any moment and in any order of what is sent and answered: if an
argument is not accepted then nothing is sent and that is the outcome; else
nothing is sent but the statements of the operation, which differ from each
other, each at most once and all of them when there is a result; a failure of
the database is the outcome; and a list of entities has one for every row, or a
row without a node fails it. -/
theorem isOrderly {repo : Repository α} (hreads : repo.converter.ReadsNodes)
    (op : Operation α ρ) :
    (∀ (σ : Type) (executor : Executor σ) (state : σ), ∃ es,
      (op.session repo).runWith executor.logging (state, []) =
        (((op.session repo).runWith executor state).1,
          ((op.session repo).runWith executor state).2, es) ∧
      op.Shows repo es (some ((op.session repo).runWith executor state).1)) ∧
    (∀ es o, op.Shows repo es o → (op.plan repo).Orderly es o ∧ op.GivesWhole repo es o) ∧
    (∀ sts, op.statements repo = .ok sts → sts.Nodup) ∧
    (op.IsOffLimits repo → ∃ fault, op.statements repo = .error fault) := by
  refine ⟨fun σ executor state => ?_, fun es o h => ⟨Plan.orderly h, givesWhole hreads h⟩,
    fun sts => nodup_statements, exists_fault_of_isOffLimits⟩
  obtain ⟨es, hrun, hpath⟩ := (op.session repo).exists_path_runWith executor state []
  rw [session_eq] at hpath
  exact ⟨es, by simpa using hrun, session_eq repo op ▸ Plan.shows_of_path hpath⟩

/-- Posts with the users who react to them. -/
def posts : Repository Social.Post :=
  ⟨Social.Post.converter⟩

/-- The answer of a node and a row without one. -/
def halfAnswer : RowStream :=
  [.ok ⟨.ofList [("n", (Node.mk "7" ["Post"] .empty).toJson)]⟩, .ok ⟨.empty⟩]

/-- An executor that has the same answer to every statement. -/
def halfExecutor : Executor Unit where
  fetch _ _ := (.ok halfAnswer, ())
  execute _ _ := (.ok (), ())

theorem isOrderly_posts : posts.converter.ReadsNodes ∧
    (∃ fault, (posts.findByField "liked_by" .null).runWith halfExecutor.logging ((), []) =
      (.error (.argument fault), (), [])) ∧
    ∃ failure es, (posts.entitiesOf ⟨"MATCH (n) RETURN n", .empty⟩).runWith
        halfExecutor.logging ((), []) = (.error failure, (), es) ∧
      sentOf es = [⟨"MATCH (n) RETURN n", .empty⟩] := by
  have hreads : posts.converter.ReadsNodes := Social.Post.readsNodes_converter
  refine ⟨hreads, ?_, ?_⟩
  · obtain ⟨hruns, hlaw, -, hrefused⟩ := isOrderly hreads (findByField "liked_by" .null)
    have hoff : IsOffLimits posts (findByField "liked_by" .null) :=
      .inl ⟨_, rfl, rfl⟩
    obtain ⟨fault, hfault⟩ := hrefused hoff
    obtain ⟨es, hrun, hshows⟩ := hruns Unit halfExecutor ()
    have horderly := (hlaw _ _ hshows).1
    rw [Plan.Orderly, show (plan posts _).statements = .error fault from hfault] at horderly
    obtain ⟨rfl, houtcome⟩ := horderly
    exact ⟨fault, hrun.trans (by rw [Option.some.inj houtcome])⟩
  · obtain ⟨hruns, hlaw, -, -⟩ :=
      isOrderly hreads (entitiesOf ⟨"MATCH (n) RETURN n", .empty⟩)
    obtain ⟨es, hrun, hshows⟩ := hruns Unit halfExecutor ()
    obtain rfl : [.sent ⟨"MATCH (n) RETURN n", .empty⟩,
      .answered ⟨"MATCH (n) RETURN n", .empty⟩ (.ok halfAnswer)] = es :=
      congrArg (fun run => run.2.2) hrun
    obtain ⟨failure, houtcome⟩ := (hlaw _ _ hshows).2.undecodable "n" _ [] halfAnswer ⟨.empty⟩
      rfl rfl (by simp) (by simp [halfAnswer]) (fun node h => by cases h) (.refl _)
    exact ⟨failure, _, hrun.trans (by rw [Option.some.inj houtcome]), rfl⟩

end Operation

end EntityGraph
