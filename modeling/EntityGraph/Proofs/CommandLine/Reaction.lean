import EntityGraph.CommandLine.Run
import EntityGraph.Proofs.Repository.Orderly
import EntityGraph.Proofs.Statement.EdgeColumns
import EntityGraph.Proofs.Statement.NodeColumns
import EntityGraph.Proofs.Statement.SyncTargets
/-!
# Reactions write when they are told to

A reaction looks its user up and then sends one more statement: the one that
makes the user's relationships lead to exactly the given posts, or, when the
change is only to be shown, the one that reads them. How far a reaction can
have come, whatever it is answered, is listed in `Comes`, and everything that
holds of all runs is read off that list (`isCareful`): nothing is written before
a node was found for the user, nothing is written when the change is only shown,
and what is shown leads from the posts that were read to the given ones.
-/

namespace EntityGraph.CommandLine.Reaction

open Social (User)

/-- Users with the posts that they react to. -/
def users : Repository User :=
  ⟨User.converter⟩

/-- The statements of a reaction: its first one, and the two of which one may
follow. -/
structure Sends (reaction : Reaction) (lookUp edges sync : Statement) : Prop where
  lookUp : Statement.findById users.label reaction.userId = .ok lookUp
  edges : Statement.edgesOf users.label reaction.userId reaction.type .outgoing = .ok edges
  sync : Statement.syncEdges reaction.userId reaction.type reaction.postIds .outgoing = .ok sync

/-- An answer has rows and nothing else, and the first of them has a node of
the user. -/
def Finds (answer : Except Failure RowStream) : Prop :=
  ∃ (row : Row) (rows : List Row) (node : Node), answer = .ok ((row :: rows).map .ok) ∧
    row.get Decode.node Repository.nodeColumn = .ok node

/-- The identifiers of the posts that some rows lead to. -/
def targetIds (rows : List Row) : Except Failure (List String) :=
  rows.mapM fun row : Row => (row.get Decode.node "target").map (·.id)

/-- What is made of the rows of the second statement. -/
def finish (reaction : Reaction) (rows : List Row) : Except Failure Outcome :=
  if reaction.dryRun then
    (Operation.readDelta reaction.postIds rows).map fun delta => .document (changeDocument delta)
  else
    (Repository.firstNumber "synced_count" rows).map fun synced =>
      .line (toString synced ++ " " ++ reaction.type ++ " relationship(s) for user "
        ++ reaction.userId)

/-- How far a reaction can have come, and its outcome if it has one by then. -/
inductive Comes (reaction : Reaction) (lookUp second : Statement) :
    List Event → Option (Except Failure Outcome) → Prop
  | unsent : Comes reaction lookUp second [] none
  | sent : Comes reaction lookUp second [.sent lookUp] none
  /-- There is no node of the user, and nothing is printed. -/
  | ended (answer : Except Failure RowStream) (outcome : Except Failure Outcome)
      (hfinds : ¬Finds answer) (hprinted : ∀ text, outcome ≠ .ok (.printed text)) :
      Comes reaction lookUp second [.sent lookUp, .answered lookUp answer] (some outcome)
  | went (answer : Except Failure RowStream) (es : List Event)
      (o : Option (Except Failure Outcome)) (hfinds : Finds answer)
      (hasked : Asked second reaction.finish es o) :
      Comes reaction lookUp second (.sent lookUp :: .answered lookUp answer :: es) o

variable {reaction : Reaction} {lookUp edges sync : Statement}

/-! ### The statements -/

theorem isName_type (reaction : Reaction) : isName reaction.type = true := by
  rw [type]
  cases reaction.dislike <;> decide

theorem exists_sends (reaction : Reaction) :
    ∃ lookUp edges sync, reaction.Sends lookUp edges sync := by
  have htype := isName_type reaction
  obtain ⟨sync, hsync⟩ : ∃ sync, Statement.syncEdges reaction.userId reaction.type
      reaction.postIds .outgoing = .ok sync := Statement.exists_syncEdges htype
  have hedges : ∃ edges,
      Statement.edgesOf users.label reaction.userId reaction.type .outgoing = .ok edges := by
    rw [Statement.edgesOf, Statement.Identifier.ofText_of_isName "relationship type" htype]
    exact ⟨_, rfl⟩
  obtain ⟨edges, hedges⟩ := hedges
  exact ⟨_, edges, sync, rfl, hedges, hsync⟩

/-- The three statements return different columns. -/
theorem nodup_of_sends (h : reaction.Sends lookUp edges sync) : [lookUp, edges, sync].Nodup := by
  have hlookUp := Statement.returnColumns_findById h.lookUp
  have hedges := Statement.returnColumns_edgesOf h.edges
  have hsync := Statement.returnColumns_syncEdges h.sync
  simp only [List.nodup_cons, List.mem_cons, List.not_mem_nil, or_false, not_or, not_false_eq_true,
    List.nodup_nil, and_true]
  refine ⟨⟨?_, ?_⟩, ?_⟩ <;> rintro rfl <;> simp_all

/-! ### The session -/

/-- What is sent once the user was found, and what becomes of its rows. -/
theorem second_eq (h : reaction.Sends lookUp edges sync) :
    (if reaction.dryRun then
      (users.planSync reaction.userId reaction.type reaction.postIds .outgoing).bind fun delta =>
        .done (.ok (.document (changeDocument delta)))
    else
      (users.syncLinks reaction.userId reaction.type reaction.postIds .outgoing).bind fun synced =>
        .done (.ok (.line (toString synced ++ " " ++ reaction.type ++ " relationship(s) for user "
          ++ reaction.userId)))) =
      Session.ask (if reaction.dryRun then edges else sync) reaction.finish := by
  have hplan : users.planSync reaction.userId reaction.type reaction.postIds .outgoing =
      .ask edges (Operation.readDelta reaction.postIds) := by
    have hsession := Operation.session_eq users
      (.planSync reaction.userId reaction.type reaction.postIds .outgoing)
    simpa only [Operation.session, Operation.plan, h.edges, Plan.session] using hsession
  have hsync : users.syncLinks reaction.userId reaction.type reaction.postIds .outgoing =
      .ask sync (Repository.firstNumber "synced_count") := by
    have hsession := Operation.session_eq users
      (.syncLinks reaction.userId reaction.type reaction.postIds .outgoing)
    simpa only [Operation.session, Operation.plan, h.sync, Plan.session] using hsession
  have hask {ρ : Type} (statement : Statement) (read : List Row → Except Failure ρ)
      (f : ρ → Outcome) : (Session.ask statement read).bind (fun a => .done (.ok (f a))) =
        .ask statement fun rows => (read rows).map f := by
    refine congrArg (Session.fetch statement) (funext fun answer => ?_)
    rw [Session.bind_done]
    cases collected answer <;> rfl
  unfold finish
  cases reaction.dryRun with
  | true => simp only [if_true, hplan, hask]
  | false => simp only [Bool.false_eq_true, if_false, hsync, hask]

theorem session_eq (h : reaction.Sends lookUp edges sync) :
    reaction.session = (Session.ask lookUp users.convertFirst).bind fun found => found.elim
      (.done (.ok (.notFound users.label reaction.userId)))
      fun _ => .ask (if reaction.dryRun then edges else sync) reaction.finish := by
  have hfind : users.findById reaction.userId = .ask lookUp users.convertFirst := by
    have hsession := Operation.session_eq users (.findById reaction.userId)
    simpa only [Operation.session, Operation.plan, h.lookUp, Plan.session] using hsession
  rw [← second_eq h, ← hfind]
  refine congrArg (users.findById reaction.userId).bind (funext fun found => ?_)
  cases found with
  | none => rfl
  | some user => cases reaction.dryRun <;> rfl

/-! ### The runs -/

/-- A user is read from an answer exactly when the answer has a node of one. -/
theorem exists_user_iff {answer : Except Failure RowStream} :
    (∃ user, (collected answer).bind users.convertFirst = .ok (some user)) ↔ Finds answer := by
  have hread (row : Row) (rows : List Row) :
      (∃ user, users.convertFirst (row :: rows) = .ok (some user)) ↔
        ∃ node, row.get Decode.node Repository.nodeColumn = .ok node := by
    obtain ⟨read, hread⟩ := Social.User.readsNodes_converter row Repository.nodeColumn
    have hfirst : users.convertFirst (row :: rows) =
        ((row.get Decode.node Repository.nodeColumn).map read).map some :=
      congrArg (Except.map some) hread
    rw [hfirst]
    cases row.get Decode.node Repository.nodeColumn <;> simp [Except.map]
  constructor
  · rintro ⟨user, huser⟩
    obtain ⟨rows, hrows, hfirst⟩ := bind_eq_ok.1 huser
    cases rows with
    | nil => cases hfirst
    | cons row rows =>
      obtain ⟨node, hnode⟩ := (hread row rows).1 ⟨user, hfirst⟩
      exact ⟨row, rows, node, collected_eq_ok.1 hrows, hnode⟩
  · rintro ⟨row, rows, node, hanswer, hnode⟩
    obtain ⟨user, huser⟩ := (hread row rows).2 ⟨node, hnode⟩
    exact ⟨user, bind_eq_ok.2 ⟨_, collected_eq_ok.2 hanswer, huser⟩⟩

/-- **Every run of a reaction is one of those listed.** -/
theorem comes_of_path (h : reaction.Sends lookUp edges sync) {es : List Event}
    {final : Strand Outcome} (hpath : Path Strand.Step (.ready reaction.session) es final) :
    reaction.Comes lookUp (if reaction.dryRun then edges else sync) es final.outcome? := by
  rw [session_eq h] at hpath
  obtain ⟨rfl, rfl⟩ | ⟨rfl, rfl⟩ | ⟨answer, es', rfl, hrest⟩ := Strand.path_fetch hpath
  · exact .unsent
  · exact .sent
  · cases hfound : (collected answer).bind users.convertFirst with
    | error failure =>
      simp only [hfound] at hrest
      obtain ⟨rfl, rfl⟩ := Strand.path_done hrest
      refine .ended answer _ (fun hfinds => ?_) fun text hprinted => by cases hprinted
      obtain ⟨user, huser⟩ := exists_user_iff.2 hfinds
      simp [hfound] at huser
    | ok found =>
      simp only [hfound] at hrest
      cases found with
      | none =>
        obtain ⟨rfl, rfl⟩ := Strand.path_done hrest
        refine .ended answer _ (fun hfinds => ?_) fun text hprinted => by cases hprinted
        obtain ⟨user, huser⟩ := exists_user_iff.2 hfinds
        simp [hfound] at huser
      | some user =>
        exact .went answer es' _ (exists_user_iff.1 ⟨user, hfound⟩) (asked_of_path hrest)

/-- What a run of a reaction keeps to, up to some moment. -/
structure IsCareful (reaction : Reaction) (lookUp edges sync : Statement) (es : List Event)
    (o : Option (Except Failure Outcome)) : Prop where
  /-- The user is looked up first, and one more statement is sent at most: the
  one that reads when the change is only shown, and the one that writes when it
  is not. -/
  sent : sentOf es <+: [lookUp, if reaction.dryRun then edges else sync]
  /-- That statement comes after a node of the user. -/
  found : ∀ statement ∈ sentOf es, statement ≠ lookUp → ∃ answer es',
    es = .sent lookUp :: .answered lookUp answer :: es' ∧ Finds answer
  /-- The one that writes comes once, and never when the change is only shown. -/
  written : sync ∈ sentOf es → reaction.dryRun = false ∧ (sentOf es).count sync = 1
  /-- After a node of the user the second statement is sent before there is an
  outcome. -/
  finished : ∀ answer, .answered lookUp answer ∈ es → Finds answer → o ≠ none →
    sentOf es = [lookUp, if reaction.dryRun then edges else sync]
  /-- A change that is shown leads from the posts that were read to the given
  ones. -/
  shown : reaction.dryRun = true → ∀ text, o = some (.ok (.printed text)) →
    ∃ (rows : List Row) (current : List String) (delta : Delta),
      .answered edges (.ok (rows.map .ok)) ∈ es ∧ targetIds rows = .ok current ∧
      .printed text = Outcome.document (changeDocument delta) ∧
      ∀ id, id ∈ delta.apply (.ofList current) ↔ id ∈ reaction.postIds

section Laws

variable {second : Statement} {es : List Event} {o : Option (Except Failure Outcome)}

theorem sent_of_comes (h : reaction.Comes lookUp second es o) : sentOf es <+: [lookUp, second] := by
  cases h with
  | unsent => exact List.nil_prefix
  | sent | ended _ _ _ _ => exact ⟨[second], rfl⟩
  | went answer es o _ hasked =>
    cases hasked with
    | unsent => exact ⟨[second], rfl⟩
    | sent | answered _ => exact List.prefix_rfl

theorem found_of_comes (h : reaction.Comes lookUp second es o) {statement : Statement}
    (hsent : statement ∈ sentOf es) (hne : statement ≠ lookUp) : ∃ answer es',
      es = .sent lookUp :: .answered lookUp answer :: es' ∧ Finds answer := by
  cases h with
  | unsent => simp at hsent
  | sent | ended _ _ _ _ => exact absurd (by simpa using hsent) hne
  | went answer es o hfinds _ => exact ⟨answer, es, rfl, hfinds⟩

theorem written_of_comes (hnodup : [lookUp, edges, sync].Nodup)
    (h : reaction.Comes lookUp (if reaction.dryRun then edges else sync) es o)
    (hsync : sync ∈ sentOf es) : reaction.dryRun = false ∧ (sentOf es).count sync = 1 := by
  have hsent := sent_of_comes h
  obtain ⟨⟨-, hlookUp⟩, hedges⟩ : (lookUp ≠ edges ∧ lookUp ≠ sync) ∧ edges ≠ sync := by
    simpa using hnodup
  have hmem := hsent.subset hsync
  cases hdry : reaction.dryRun with
  | true => simp [hdry, hlookUp.symm, hedges.symm] at hmem
  | false =>
    have hcount := hsent.sublist.count_le sync
    have hpos := List.count_pos_iff.2 hsync
    simp only [hdry, Bool.false_eq_true, if_false, List.count_cons, List.count_nil,
      beq_self_eq_true, beq_iff_eq, if_neg hlookUp, if_true] at hcount
    exact ⟨rfl, by omega⟩

theorem finished_of_comes (h : reaction.Comes lookUp second es o)
    {answer : Except Failure RowStream}
    (hanswer : .answered lookUp answer ∈ es) (hfinds : Finds answer) (ho : o ≠ none) :
    sentOf es = [lookUp, second] := by
  cases h with
  | unsent | sent => exact absurd rfl ho
  | ended other outcome hother _ =>
    obtain rfl : answer = other := by simpa using hanswer
    exact absurd hfinds hother
  | went other es o _ hasked =>
    cases hasked with
    | unsent | sent => exact absurd rfl ho
    | answered _ => rfl

theorem shown_of_comes {text : String} (hdry : reaction.dryRun = true)
    (h : reaction.Comes lookUp second es (some (.ok (.printed text)))) :
    ∃ (rows : List Row) (current : List String) (delta : Delta),
      .answered second (.ok (rows.map .ok)) ∈ es ∧ targetIds rows = .ok current ∧
      .printed text = Outcome.document (changeDocument delta) ∧
      ∀ id, id ∈ delta.apply (.ofList current) ↔ id ∈ reaction.postIds := by
  generalize ho : some (Except.ok (Outcome.printed text)) = o at h
  cases h with
  | unsent | sent => cases ho
  | ended answer outcome _ hprinted => exact absurd (Option.some.inj ho).symm (hprinted text)
  | went answer es o _ hasked =>
    subst ho
    obtain ⟨rows, rfl, hrows⟩ := hasked.of_ok
    rw [finish, if_pos hdry] at hrows
    obtain ⟨delta, hdelta, hprinted⟩ := map_eq_ok.1 hrows
    obtain ⟨current, hcurrent, rfl⟩ := map_eq_ok.1 hdelta
    refine ⟨rows, current, _, by simp, hcurrent, hprinted.symm, fun id => ?_⟩
    rw [Delta.apply_between, TextSet.mem_ofList]

end Laws

/-- **A reaction writes when it is told to, and nothing else than it is told.**
What an executor makes of it is one of its runs. In every run, whatever is
answered and however far it has come, the user is looked up first; the statement
that writes comes once at most, after a node of the user, and never when the
change is only shown; and that statement is told the given posts as a set. -/
theorem isCareful (reaction : Reaction) : ∃ lookUp edges sync told,
    reaction.Sends lookUp edges sync ∧ [lookUp, edges, sync].Nodup ∧
    sync.TellsTargets reaction.postIds told ∧
    (∀ (σ : Type) (executor : Executor σ) (state : σ), ∃ es,
      reaction.session.runWith executor.logging (state, []) =
        ((reaction.session.runWith executor state).1,
          (reaction.session.runWith executor state).2, es) ∧
      Path Strand.Step (.ready reaction.session) es
        (.ready (.done (reaction.session.runWith executor state).1))) ∧
    ∀ es final, Path Strand.Step (.ready reaction.session) es final →
      reaction.IsCareful lookUp edges sync es final.outcome? := by
  obtain ⟨lookUp, edges, sync, hsends⟩ := exists_sends reaction
  have hnodup := nodup_of_sends hsends
  refine ⟨lookUp, edges, sync, _, hsends, hnodup,
    Statement.tellsTargets_syncEdges hsends.sync, fun σ executor state => ?_,
    fun es final hpath => ?_⟩
  · obtain ⟨es, hrun, hpath⟩ := reaction.session.exists_path_runWith executor state []
    exact ⟨es, by simpa using hrun, hpath⟩
  · have hcomes := comes_of_path hsends hpath
    refine ⟨sent_of_comes hcomes, fun statement => found_of_comes hcomes,
      written_of_comes hnodup hcomes, fun answer => finished_of_comes hcomes,
      fun hdry text ho => ?_⟩
    have hshown := shown_of_comes hdry (ho ▸ hcomes)
    simpa only [hdry, if_true] using hshown

/-- A reaction whose change is only shown. -/
def shownReaction : Reaction :=
  { userId := "1", dryRun := true, postIds := ["3", "2", "3"] }

/-- A row with a user and a post. -/
def onePost : Row :=
  ⟨.ofList [("n", (Node.mk "1" ["User"] .empty).toJson),
    ("target", (Node.mk "7" ["Post"] .empty).toJson)]⟩

/-- An executor that answers every statement with that row. -/
def onePostExecutor : Executor Unit where
  fetch _ _ := (.ok [.ok onePost], ())
  execute _ _ := (.ok (), ())

theorem isCareful_shownReaction : ∃ lookUp edges sync,
    shownReaction.Sends lookUp edges sync ∧ ∃ text es,
      shownReaction.session.runWith onePostExecutor.logging ((), []) =
        (.ok (.printed text), (), es) ∧
      sentOf es = [lookUp, edges] ∧ sync ∉ sentOf es ∧ ∃ delta : Delta,
        .printed text = Outcome.document (changeDocument delta) ∧
        ∀ id, id ∈ delta.apply (.ofList ["7"]) ↔ id ∈ ["3", "2", "3"] := by
  obtain ⟨lookUp, edges, sync, told, hsends, -, -, hruns, hcareful⟩ := isCareful shownReaction
  obtain ⟨es, hrun, hpath⟩ := hruns Unit onePostExecutor ()
  obtain ⟨text, hprinted⟩ : ∃ text,
      (shownReaction.session.runWith onePostExecutor ()).1 = .ok (.printed text) := ⟨_, rfl⟩
  have hlaws := hcareful _ _ hpath
  rw [hprinted] at hrun hlaws
  -- What the executor saw is in its log.
  have hlog : .answered lookUp (.ok [.ok onePost]) ∈ es ∧
      ∀ statement answer, .answered statement answer ∈ es → answer = .ok [.ok onePost] := by
    obtain rfl := Except.ok.inj ((rfl : Statement.findById users.label "1" = .ok _).symm.trans
      hsends.lookUp)
    obtain rfl := congrArg (fun run => run.2.2) hrun
    refine ⟨List.mem_cons_of_mem _ List.mem_cons_self, fun statement answer hmem => ?_⟩
    rcases hmem with _ | ⟨_, _ | ⟨_, _ | ⟨_, _ | ⟨_, ⟨⟩⟩⟩⟩⟩ <;> rfl
  have hfinds : Finds (.ok [.ok onePost]) := ⟨onePost, [], ⟨"1", ["User"], .empty⟩, rfl, rfl⟩
  obtain ⟨rows, current, delta, hrows, hcurrent, htext, happly⟩ := hlaws.shown rfl text rfl
  obtain rfl : rows = [onePost] := by
    have hsame : (rows.map .ok : RowStream) = [onePost].map .ok :=
      Except.ok.inj (hlog.2 edges _ hrows)
    exact List.map_injective_iff.2 (fun _ _ => Except.ok.inj) hsame
  obtain rfl : ["7"] = current := Except.ok.inj hcurrent
  exact ⟨lookUp, edges, sync, hsends, text, es, hrun, hlaws.finished _ hlog.1 hfinds
    (Option.some_ne_none _),
    fun hsync => absurd (hlaws.written hsync).1 (by decide), delta, htext, happly⟩

end EntityGraph.CommandLine.Reaction
