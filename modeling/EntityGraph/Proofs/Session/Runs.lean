import EntityGraph.Session
import Mathlib.Data.List.Basic
/-!
# Runs of sessions

A session as it is seen from the database: the statements that come in and the
answers that go out, one event after another. A session under way is a strand;
each event takes it one step further, and a strand that awaits an answer goes
on with whatever answer it gets. What an executor makes of a session is one of
these runs (`exists_path_runWith`), so what holds of all runs holds whatever
the executor answers. Two strands may also go on side by side, in any order,
until one of them fails (`Pair`).
-/

namespace EntityGraph

/-- What happens between a session and the database. -/
inductive Event where
  /-- The database gets a statement. -/
  | sent (statement : Statement)
  /-- The rows of a statement have come, or could not. -/
  | answered (statement : Statement) (answer : Except Failure RowStream)
  /-- A statement whose rows are not awaited has ended, or could not. -/
  | ended (statement : Statement) (answer : Except Failure Unit)

/-- The statement that an event brings to the database. -/
def Event.sent? : Event → Option Statement
  | sent statement => some statement
  | _ => none

/-- The statement whose rows an event brings. -/
def Event.answered? : Event → Option Statement
  | answered statement _ => some statement
  | _ => none

/-- The statements that the database got. -/
def sentOf (es : List Event) : List Statement :=
  es.filterMap Event.sent?

/-- The statements whose rows came back. -/
def answeredOf (es : List Event) : List Statement :=
  es.filterMap Event.answered?

section Exchanged

variable (statement : Statement) (answer : Except Failure RowStream) (es es' : List Event)

@[simp] theorem sentOf_nil : sentOf [] = [] := rfl

@[simp] theorem sentOf_sent : sentOf (.sent statement :: es) = statement :: sentOf es := rfl

@[simp] theorem sentOf_answered : sentOf (.answered statement answer :: es) = sentOf es := rfl

@[simp] theorem sentOf_append : sentOf (es ++ es') = sentOf es ++ sentOf es' :=
  List.filterMap_append

@[simp] theorem answeredOf_nil : answeredOf [] = [] := rfl

@[simp] theorem answeredOf_sent : answeredOf (.sent statement :: es) = answeredOf es := rfl

@[simp] theorem answeredOf_answered :
    answeredOf (.answered statement answer :: es) = statement :: answeredOf es := rfl

@[simp] theorem answeredOf_append : answeredOf (es ++ es') = answeredOf es ++ answeredOf es' :=
  List.filterMap_append

variable {es es'}

theorem sentOf_perm (h : es.Perm es') : (sentOf es).Perm (sentOf es') :=
  h.filterMap Event.sent?

theorem answeredOf_perm (h : es.Perm es') : (answeredOf es).Perm (answeredOf es') :=
  h.filterMap Event.answered?

end Exchanged

/-- Steps one after another, and what happened at them. -/
inductive Path {C : Type} (Step : C → Event → C → Prop) : C → List Event → C → Prop
  | nil (c : C) : Path Step c [] c
  | cons {c d final : C} {e : Event} {es : List Event} (step : Step c e d)
    (rest : Path Step d es final) : Path Step c (e :: es) final

theorem Path.append {C : Type} {Step : C → Event → C → Prop} {c d final : C} {es es' : List Event}
    (h : Path Step c es d) (h' : Path Step d es' final) : Path Step c (es ++ es') final := by
  induction h with
  | nil => exact h'
  | cons step _ ih => exact .cons step (ih h')

/-- What steps keep holds after all of them. -/
theorem Path.invariant {C : Type} {Step : C → Event → C → Prop} {I : C → Prop}
    (hstep : ∀ {c d e}, Step c e d → I c → I d) {c final : C} {es : List Event}
    (h : Path Step c es final) (hc : I c) : I final := by
  induction h with
  | nil => exact hc
  | cons step _ ih => exact ih (hstep step hc)

/-- A session under way. -/
inductive Strand (α : Type) where
  | ready (session : Session α)
  /-- A statement was sent and its rows are awaited. -/
  | awaitingRows (statement : Statement) (next : Except Failure RowStream → Session α)
  /-- A statement was sent and its end is awaited. -/
  | awaitingEnd (statement : Statement) (next : Except Failure Unit → Session α)

namespace Strand

variable {α : Type}

/-- The outcome of a strand, once it has one. -/
def outcome? : Strand α → Option (Except Failure α)
  | ready (.done outcome) => some outcome
  | _ => none

/-- One step of a strand. It does not choose the answer that it gets. -/
inductive Step : Strand α → Event → Strand α → Prop
  | fetch (statement : Statement) (next : Except Failure RowStream → Session α) :
    Step (ready (.fetch statement next)) (.sent statement) (awaitingRows statement next)
  | rows (statement : Statement) (next : Except Failure RowStream → Session α)
      (answer : Except Failure RowStream) :
    Step (awaitingRows statement next) (.answered statement answer) (ready (next answer))
  | execute (statement : Statement) (next : Except Failure Unit → Session α) :
    Step (ready (.execute statement next)) (.sent statement) (awaitingEnd statement next)
  | ending (statement : Statement) (next : Except Failure Unit → Session α)
      (answer : Except Failure Unit) :
    Step (awaitingEnd statement next) (.ended statement answer) (ready (next answer))

/-- Nothing happens once there is an outcome. -/
theorem path_done {outcome : Except Failure α} {es : List Event} {final : Strand α}
    (h : Path Step (ready (.done outcome)) es final) : es = [] ∧ final = ready (.done outcome) := by
  cases h with
  | nil => exact ⟨rfl, rfl⟩
  | cons step _ => cases step

/-- A session that awaits rows has not sent its statement, has no answer, or
has gone on with one. -/
theorem path_fetch {statement : Statement} {next : Except Failure RowStream → Session α}
    {es : List Event} {final : Strand α}
    (h : Path Step (ready (.fetch statement next)) es final) :
    (es = [] ∧ final = ready (.fetch statement next)) ∨
    (es = [.sent statement] ∧ final = awaitingRows statement next) ∨
    ∃ answer es', es = .sent statement :: .answered statement answer :: es' ∧
      Path Step (ready (next answer)) es' final := by
  cases h with
  | nil => exact .inl ⟨rfl, rfl⟩
  | cons step rest =>
    cases step
    cases rest with
    | nil => exact .inr (.inl ⟨rfl, rfl⟩)
    | cons step rest =>
      cases step
      exact .inr (.inr ⟨_, _, rfl, rest⟩)

end Strand

/-- Two strands side by side. -/
structure Pair (α β : Type) where
  first : Strand α
  second : Strand β

/-- The outcome of two computations of which each may still go on: a failure of
either at once, or both results. -/
def joint {α β : Type} :
    Option (Except Failure α) → Option (Except Failure β) → Option (Except Failure (α × β))
  | some (.error failure), _ => some (.error failure)
  | _, some (.error failure) => some (.error failure)
  | some (.ok a), some (.ok b) => some (.ok (a, b))
  | _, _ => none

section Joint

variable {α β : Type} {x : Option (Except Failure α)} {y : Option (Except Failure β)}
  {failure : Failure}

theorem joint_eq_ok {a : α} {b : β} :
    joint x y = some (.ok (a, b)) ↔ x = some (.ok a) ∧ y = some (.ok b) := by
  rcases x with _ | _ | _ <;> rcases y with _ | _ | _ <;> simp [joint]

theorem failed_of_joint (h : joint x y = some (.error failure)) :
    x = some (.error failure) ∨ y = some (.error failure) := by
  rcases x with _ | _ | _ <;> rcases y with _ | _ | _ <;> simp_all [joint]

/-- The failure of one of two computations is the outcome, if the other one has
not failed as well. -/
theorem joint_of_error
    (honce : ∀ failure other, x = some (.error failure) → y ≠ some (.error other))
    (h : x = some (.error failure) ∨ y = some (.error failure)) :
    joint x y = some (.error failure) := by
  obtain rfl | rfl := h
  · rfl
  · rcases x with _ | other | _
    · rfl
    · exact absurd rfl (honce other failure rfl)
    · rfl

/-- Two computations that are over have a joint outcome. -/
theorem joint_ne_none (hx : x ≠ none) (hy : y ≠ none) : joint x y ≠ none := by
  rcases x with _ | _ | _ <;> rcases y with _ | _ | _ <;> simp_all [joint]

/-- Neither of two computations has failed while there is no joint outcome. -/
theorem not_failed_of_joint (h : joint x y = none) (failure : Failure) :
    x ≠ some (.error failure) ∧ y ≠ some (.error failure) := by
  constructor
  · rintro rfl
    simp [joint] at h
  · rintro rfl
    rcases x with _ | _ | _ <;> simp [joint] at h

end Joint

namespace Pair

variable {α β : Type} {p q : Pair α β} {e : Event} {es : List Event}

/-- The outcome of a pair, once it has one. -/
def outcome? (p : Pair α β) : Option (Except Failure (α × β)) :=
  joint p.first.outcome? p.second.outcome?

/-- One step of either strand, as long as there is no outcome. -/
inductive Step : Pair α β → Event → Pair α β → Prop
  | first {p : Pair α β} {s : Strand α} {e : Event} (going : p.outcome? = none)
    (step : p.first.Step e s) : Step p e { p with first := s }
  | second {p : Pair α β} {s : Strand β} {e : Event} (going : p.outcome? = none)
    (step : p.second.Step e s) : Step p e { p with second := s }

/-- Not both strands have failed. -/
def FailsOnce (p : Pair α β) : Prop :=
  ∀ failure other, p.first.outcome? = some (.error failure) →
    p.second.outcome? ≠ some (.error other)

/-- The first failure is the last event. -/
theorem failsOnce_of_step (h : Step p e q) : q.FailsOnce := by
  intro failure other hfirst hsecond
  cases h with
  | first going _ => exact (not_failed_of_joint going other).2 hsecond
  | second going _ => exact (not_failed_of_joint going failure).1 hfirst

theorem failsOnce_of_path (h : Path Step p es q) (hp : p.FailsOnce) : q.FailsOnce :=
  h.invariant (fun step _ => failsOnce_of_step step) hp

/-- **A run of a pair is a run of each strand,** one shuffled into the other. -/
theorem exists_paths (h : Path Step p es q) : ∃ es₁ es₂, es.Perm (es₁ ++ es₂) ∧
    Path Strand.Step p.first es₁ q.first ∧ Path Strand.Step p.second es₂ q.second := by
  induction h with
  | nil => exact ⟨[], [], .nil, .nil _, .nil _⟩
  | cons step _ ih =>
    obtain ⟨es₁, es₂, hperm, hfirst, hsecond⟩ := ih
    cases step with
    | first _ step => exact ⟨_ :: es₁, es₂, hperm.cons _, .cons step hfirst, hsecond⟩
    | second _ step =>
      exact ⟨es₁, _ :: es₂, (hperm.cons _).trans List.perm_middle.symm, hfirst,
        .cons step hsecond⟩

end Pair

/-- The executor that also keeps what it saw. -/
def Executor.logging {σ : Type} (executor : Executor σ) : Executor (σ × List Event) where
  fetch statement state :=
    let (answer, after) := executor.fetch statement state.1
    (answer, after, state.2 ++ [.sent statement, .answered statement answer])
  execute statement state :=
    let (answer, after) := executor.execute statement state.1
    (answer, after, state.2 ++ [.sent statement, .ended statement answer])

/-- **What an executor makes of a session is a run of it.** Keeping what it saw
changes neither the outcome nor the state. -/
theorem Session.exists_path_runWith {α σ : Type} (executor : Executor σ) (session : Session α)
    (state : σ) (log : List Event) : ∃ es,
      session.runWith executor.logging (state, log) =
        ((session.runWith executor state).1, (session.runWith executor state).2, log ++ es) ∧
      Path Strand.Step (.ready session) es (.ready (.done (session.runWith executor state).1)) := by
  induction session generalizing state log with
  | done outcome => exact ⟨[], by simp [runWith], .nil _⟩
  | fetch statement next ih =>
    obtain ⟨es, hrun, hpath⟩ := ih (executor.fetch statement state).1
      (executor.fetch statement state).2
      (log ++ [.sent statement, .answered statement (executor.fetch statement state).1])
    refine ⟨_, ?_, .cons (.fetch statement next) (.cons (.rows statement next _) hpath)⟩
    simpa [runWith, Executor.logging] using hrun
  | execute statement next ih =>
    obtain ⟨es, hrun, hpath⟩ := ih (executor.execute statement state).1
      (executor.execute statement state).2
      (log ++ [.sent statement, .ended statement (executor.execute statement state).1])
    refine ⟨_, ?_, .cons (.execute statement next) (.cons (.ending statement next _) hpath)⟩
    simpa [runWith, Executor.logging] using hrun

end EntityGraph
