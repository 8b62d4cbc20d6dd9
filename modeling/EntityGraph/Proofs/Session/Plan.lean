import EntityGraph.Proofs.Outcome
import EntityGraph.Proofs.Session.Runs
import Mathlib.Data.List.Perm.Subperm
/-!
# Plans

A plan is a computation whose statements are all built before the first of them
is sent: one statement whose rows are read, or two that are asked for side by
side. Whatever the answers are, nothing is sent of a plan that cannot be built,
nothing is sent twice, and a failure of the database is the outcome
(`Plan.orderly`). A result comes from all rows of the first statement
(`Plan.reads_of_ok`), and any other failure from the rows as well
(`Plan.reads_of_error`). Asking for the second statement only after the first
was answered is one of the ways to run a plan (`Plan.shows_of_path`).
-/

namespace EntityGraph

/-! ### Answers -/

theorem RowStream.collect_eq_ok {stream : RowStream} {rows : List Row} :
    stream.collect = .ok rows ↔ stream = rows.map .ok := by
  induction stream generalizing rows with
  | nil => cases rows <;> simp [collect]
  | cons head rest ih =>
    cases head with
    | error failure => cases rows <;> simp [collect]
    | ok row =>
      rw [collect, map_eq_ok]
      constructor
      · rintro ⟨tail, htail, rfl⟩
        rw [ih.1 htail, List.map_cons]
      · intro h
        obtain ⟨row', tail, rfl, hrow, htail⟩ := List.map_eq_cons_iff.1 h.symm
        obtain rfl := Except.ok.inj hrow
        exact ⟨tail, ih.2 htail.symm, rfl⟩

/-- An answer brings a failure: instead of rows, or after some of them. -/
def Reports (answer : Except Failure RowStream) (failure : Failure) : Prop :=
  answer = .error failure ∨ ∃ (rows : List Row) (rest : RowStream),
    answer = .ok (rows.map .ok ++ .error failure :: rest)

/-- The rows of an answer, or its failure. -/
def collected (answer : Except Failure RowStream) : Except Failure (List Row) :=
  answer.bind RowStream.collect

theorem collected_eq_ok {answer : Except Failure RowStream} {rows : List Row} :
    collected answer = .ok rows ↔ answer = .ok (rows.map .ok) := by
  cases answer with
  | error failure => simp [collected, Except.bind]
  | ok stream => simpa [collected, Except.bind] using RowStream.collect_eq_ok

/-- What is collected of an answer fails exactly as the answer does. -/
theorem reports_iff {answer : Except Failure RowStream} {failure : Failure} :
    Reports answer failure ↔ collected answer = .error failure := by
  constructor
  · rintro (rfl | ⟨rows, rest, rfl⟩)
    · rfl
    · induction rows with
      | nil => rfl
      | cons row rows ih => exact map_eq_error.2 ih
  · intro h
    rcases answer with other | stream
    · obtain rfl : other = failure := Except.error.inj h
      exact .inl rfl
    refine .inr ?_
    have hstream : stream.collect = .error failure := h
    clear h
    induction stream with
    | nil => cases hstream
    | cons head stream ih =>
      cases head with
      | error other =>
        obtain rfl := Except.error.inj hstream
        exact ⟨[], stream, rfl⟩
      | ok row =>
        obtain ⟨rows, rest, hrest⟩ := ih (map_eq_error.1 hstream)
        exact ⟨row :: rows, rest, by rw [Except.ok.inj hrest]; rfl⟩

/-! ### One statement -/

section Asking

variable {α : Type}

/-- What is read from all rows of a statement. -/
def Session.ask (statement : Statement) (read : List Row → Except Failure α) : Session α :=
  fetch statement fun answer => done ((collected answer).bind read)

theorem Session.bind_done {β : Type} (outcome : Except Failure α) (f : α → Except Failure β) :
    (done outcome).bind (fun a => done (f a)) = done (outcome.bind f) := by
  cases outcome <;> rfl

/-- How far asking for the rows of a statement can have come. -/
inductive Asked (statement : Statement) (read : List Row → Except Failure α) :
    List Event → Option (Except Failure α) → Prop
  | unsent : Asked statement read [] none
  | sent : Asked statement read [.sent statement] none
  | answered (answer : Except Failure RowStream) :
    Asked statement read [.sent statement, .answered statement answer]
      (some ((collected answer).bind read))

variable {statement : Statement} {read : List Row → Except Failure α} {es : List Event}
  {o : Option (Except Failure α)} {final : Strand α}

theorem asked_of_path (h : Path Strand.Step (.ready (.ask statement read)) es final) :
    Asked statement read es final.outcome? := by
  obtain ⟨rfl, rfl⟩ | ⟨rfl, rfl⟩ | ⟨answer, es', rfl, hend⟩ := Strand.path_fetch h
  · exact .unsent
  · exact .sent
  · obtain ⟨rfl, rfl⟩ := Strand.path_done hend
    exact .answered answer

namespace Asked

/-- The statement is sent at most once. -/
theorem sent_sublist (h : Asked statement read es o) : (sentOf es).Sublist [statement] := by
  cases h <;> simp

/-- An answer gives the outcome. -/
theorem of_mem {other : Statement} {answer : Except Failure RowStream}
    (h : Asked statement read es o) (hmem : .answered other answer ∈ es) :
    other = statement ∧ es = [.sent statement, .answered statement answer] ∧
      o = some ((collected answer).bind read) := by
  cases h <;> simp at hmem
  obtain ⟨rfl, rfl⟩ := hmem
  exact ⟨rfl, rfl, rfl⟩

theorem answer_unique {other : Statement} {answer answer' : Except Failure RowStream}
    (h : Asked statement read es o) (hmem : .answered other answer ∈ es)
    (hmem' : .answered other answer' ∈ es) : answer = answer' := by
  obtain ⟨rfl, rfl, -⟩ := h.of_mem hmem
  have hsame : answer' = answer := by simpa using hmem'
  exact hsame.symm

theorem eq_of_error {other : Statement} {answer : Except Failure RowStream} {failure : Failure}
    (h : Asked statement read es o) (hmem : .answered other answer ∈ es)
    (hfailure : Reports answer failure) : o = some (.error failure) := by
  obtain ⟨-, -, rfl⟩ := h.of_mem hmem
  rw [reports_iff.1 hfailure]
  rfl

/-- A result was read from all rows. -/
theorem of_ok {a : α} (h : Asked statement read es (some (.ok a))) : ∃ rows,
    es = [.sent statement, .answered statement (.ok (rows.map .ok))] ∧ read rows = .ok a := by
  generalize ho : some (Except.ok a) = o at h
  cases h with
  | unsent | sent => simp at ho
  | answered answer =>
    obtain ⟨rows, hrows, hread⟩ := bind_eq_ok.1 (Option.some.inj ho).symm
    obtain rfl := collected_eq_ok.1 hrows
    exact ⟨rows, rfl, hread⟩

/-- A failure is one of the database, or of what is read from its rows. -/
theorem of_error {failure : Failure} (h : Asked statement read es (some (.error failure))) :
    (∃ answer, .answered statement answer ∈ es ∧ Reports answer failure) ∨
    ∃ rows, .answered statement (.ok (rows.map .ok)) ∈ es ∧ read rows = .error failure := by
  generalize ho : some (Except.error failure) = o at h
  cases h with
  | unsent | sent => simp at ho
  | answered answer =>
    rcases bind_eq_error.1 (Option.some.inj ho).symm with hfail | ⟨rows, hrows, hread⟩
    · exact .inl ⟨answer, by simp, reports_iff.2 hfail⟩
    · obtain rfl := collected_eq_ok.1 hrows
      exact .inr ⟨rows, by simp, hread⟩

/-- Without an outcome there was no answer. -/
theorem answered_sublist (h : Asked statement read es o) :
    (answeredOf es).Sublist [statement] ∧ (o = none → answeredOf es = []) := by
  cases h <;> simp

end Asked

end Asking

/-! ### Plans -/

/-- A computation whose statements do not depend on any answer. -/
inductive Plan (ρ : Type) where
  /-- One statement, and what is read from its rows. -/
  | one (statement : Except ArgumentFault Statement) (read : List Row → Except Failure ρ)
  /-- Two statements that are asked for side by side, the number that is read
  from the rows of the second, and what is made of it and the rows of the
  first. -/
  | two (statements : Except ArgumentFault (Statement × Statement))
    (number : List Row → Except Failure Int) (finish : List Row → Int → Except Failure ρ)

namespace Plan

variable {ρ : Type}

/-- The statements of a plan, unless an argument is not accepted. -/
def statements : Plan ρ → Except ArgumentFault (List Statement)
  | one statement _ => statement.map ([·])
  | two statements _ _ => statements.map fun both => [both.1, both.2]

/-- The plan with one statement after the other. -/
def session : Plan ρ → Session ρ
  | one (.error fault) _ | two (.error fault) _ _ => .done (.error (.argument fault))
  | one (.ok statement) read => .ask statement read
  | two (.ok both) number finish =>
    (Session.ask both.1 .ok).bind fun rows =>
      (Session.ask both.2 number).bind fun n => .done (finish rows n)

/-- Two statements that are asked for side by side. -/
def pair (both : Statement × Statement) (number : List Row → Except Failure Int) :
    Pair (List Row) Int :=
  ⟨.ready (.ask both.1 .ok), .ready (.ask both.2 number)⟩

/-- **What can be seen of a plan** up to some moment, and its outcome if it has
one by then. Two statements run side by side, any other plan as its session. -/
def Shows : Plan ρ → List Event → Option (Except Failure ρ) → Prop
  | two (.ok both) number finish, es, o =>
    ∃ final, Path Pair.Step (pair both number) es final ∧
      final.outcome?.map (·.bind fun (rows, n) => finish rows n) = o
  | plan, es, o => ∃ final, Path Strand.Step (.ready plan.session) es final ∧ final.outcome? = o

/-- What some rows of the first statement lead to. -/
def Reads : Plan ρ → List Row → Except Failure ρ → Prop
  | one _ read, rows, outcome => read rows = outcome
  | two _ _ finish, rows, outcome => ∃ n, finish rows n = outcome

/-- The rows of the second statement do not have the number. -/
def FailsCounting : Plan ρ → List Row → Failure → Prop
  | one _ _, _, _ => False
  | two _ number _, rows, failure => number rows = .error failure

/-- What is kept to while some statements are asked for. -/
structure KeepsTo (sts : List Statement) (es : List Event) (o : Option (Except Failure ρ)) :
    Prop where
  /-- Nothing else is sent, and none of them twice. -/
  sent : (sentOf es).Subperm sts
  /-- There is no result before all of them are sent and answered. -/
  settled : ∀ result, o = some (.ok result) → (sentOf es).Perm sts ∧ (answeredOf es).Perm sts
  /-- When all of them are answered it is over. -/
  finished : (answeredOf es).Perm sts → o ≠ none
  /-- A failure of the database is the outcome. -/
  failed : ∀ statement answer failure, .answered statement answer ∈ es →
    Reports answer failure → o = some (.error failure)

/-- If an argument of a plan is not accepted then that is the outcome, and
nothing is sent; otherwise its statements are kept to. -/
def Orderly (plan : Plan ρ) (es : List Event) (o : Option (Except Failure ρ)) : Prop :=
  match plan.statements with
  | .error fault => es = [] ∧ o = some (.error (.argument fault))
  | .ok sts => KeepsTo sts es o

section Laws

variable {es : List Event} {o : Option (Except Failure ρ)} {both : Statement × Statement}
  {number : List Row → Except Failure Int} {finish : List Row → Int → Except Failure ρ}

theorem asked_of_shows {statement : Statement} {read : List Row → Except Failure ρ}
    (h : (one (.ok statement) read).Shows es o) : Asked statement read es o := by
  obtain ⟨final, hpath, rfl⟩ := h
  exact asked_of_path hpath

/-- What can be seen of two statements is what can be seen of each. -/
theorem exists_asked (h : (two (.ok both) number finish).Shows es o) : ∃ es₁ es₂ o₁ o₂,
    es.Perm (es₁ ++ es₂) ∧ Asked both.1 .ok es₁ o₁ ∧ Asked both.2 number es₂ o₂ ∧
    (∀ failure other, o₁ = some (.error failure) → o₂ ≠ some (.error other)) ∧
    o = (joint o₁ o₂).map (·.bind fun (rows, n) => finish rows n) := by
  obtain ⟨final, hpath, rfl⟩ := h
  have hstart : (pair both number).FailsOnce := by
    intro failure other hfirst
    simp [pair, Strand.outcome?, Session.ask] at hfirst
  have honce := Pair.failsOnce_of_path hpath hstart
  obtain ⟨es₁, es₂, hperm, hfirst, hsecond⟩ := Pair.exists_paths hpath
  exact ⟨es₁, es₂, _, _, hperm, asked_of_path hfirst, asked_of_path hsecond, honce, rfl⟩

/-- A result of two statements was made of all their rows. -/
theorem exists_of_ok {result : ρ}
    (h : (two (.ok both) number finish).Shows es (some (.ok result))) : ∃ rows counted n,
    es.Perm [.sent both.1, .answered both.1 (.ok (rows.map .ok)), .sent both.2,
        .answered both.2 (.ok (counted.map .ok))] ∧
      number counted = .ok n ∧ finish rows n = .ok result := by
  obtain ⟨es₁, es₂, o₁, o₂, hperm, hfirst, hsecond, -, ho⟩ := exists_asked h
  obtain ⟨outcome, hjoint, houtcome⟩ := Option.map_eq_some_iff.1 ho.symm
  obtain ⟨⟨rows, n⟩, rfl, hfinish⟩ := bind_eq_ok.1 houtcome
  obtain ⟨rfl, rfl⟩ := joint_eq_ok.1 hjoint
  obtain ⟨rows', rfl, hrows⟩ := hfirst.of_ok
  obtain rfl := Except.ok.inj hrows
  obtain ⟨counted, rfl, hcounted⟩ := hsecond.of_ok
  exact ⟨rows', counted, n, hperm, hcounted, hfinish⟩

theorem keepsTo_one {statement : Statement} {read : List Row → Except Failure ρ}
    (h : Asked statement read es o) : KeepsTo [statement] es o where
  sent := h.sent_sublist.subperm
  settled := by
    rintro result rfl
    obtain ⟨rows, rfl, -⟩ := h.of_ok
    simp
  finished := by
    rintro hanswered rfl
    rw [h.answered_sublist.2 rfl] at hanswered
    simpa using hanswered.length_eq
  failed _ _ _ := h.eq_of_error

theorem keepsTo_two (h : (two (.ok both) number finish).Shows es o) :
    KeepsTo [both.1, both.2] es o := by
  obtain ⟨es₁, es₂, o₁, o₂, hperm, hfirst, hsecond, honce, ho⟩ := exists_asked h
  refine ⟨?_, ?_, ?_, ?_⟩
  · have hsent := sentOf_perm hperm
    rw [sentOf_append] at hsent
    exact hsent.subperm.trans (hfirst.sent_sublist.append hsecond.sent_sublist).subperm
  · rintro result rfl
    obtain ⟨rows, counted, n, hes, -⟩ := exists_of_ok h
    exact ⟨sentOf_perm hes, answeredOf_perm hes⟩
  -- Each statement has one answer at most, so two answers are one for each.
  · rintro hall hnone
    have hlength := (hall.symm.trans (answeredOf_perm hperm)).length_eq
    have hle₁ := hfirst.answered_sublist.1.length_le
    have hle₂ := hsecond.answered_sublist.1.length_le
    simp only [answeredOf_append, List.length_append, List.length_cons, List.length_nil]
      at hlength hle₁ hle₂
    have hjoint : joint o₁ o₂ = none := Option.map_eq_none_iff.1 (ho.symm.trans hnone)
    refine joint_ne_none (fun h₁ => ?_) (fun h₂ => ?_) hjoint
    · rw [hfirst.answered_sublist.2 h₁, List.length_nil] at hlength
      omega
    · rw [hsecond.answered_sublist.2 h₂, List.length_nil] at hlength
      omega
  · intro other answer failure hmem hfailure
    have hfailed : o₁ = some (.error failure) ∨ o₂ = some (.error failure) := by
      rcases List.mem_append.1 (hperm.mem_iff.1 hmem) with hmem | hmem
      · exact .inl (hfirst.eq_of_error hmem hfailure)
      · exact .inr (hsecond.eq_of_error hmem hfailure)
    rw [ho, joint_of_error honce hfailed]
    rfl

/-- A session that is over at once is its outcome. -/
theorem refused_of_path {fault : ArgumentFault}
    (h : ∃ final, Path Strand.Step (.ready (.done (.error (.argument fault)))) es final ∧
      final.outcome? = o) : es = [] ∧ o = some (.error (.argument fault)) := by
  obtain ⟨final, hpath, rfl⟩ := h
  obtain ⟨rfl, rfl⟩ := Strand.path_done hpath
  exact ⟨rfl, rfl⟩

/-- **Whatever can be seen of a plan is orderly.** -/
theorem orderly {plan : Plan ρ} (h : plan.Shows es o) : plan.Orderly es o := by
  rcases plan with ⟨fault | statement, read⟩ | ⟨fault | both, number, finish⟩
  · exact refused_of_path h
  · exact keepsTo_one (asked_of_shows h)
  · exact refused_of_path h
  · exact keepsTo_two h

theorem keepsTo_of_shows {plan : Plan ρ} (h : plan.Shows es o) {sts : List Statement}
    (hsts : plan.statements = .ok sts) : KeepsTo sts es o := by
  have horderly := orderly h
  rwa [Orderly, hsts] at horderly

theorem nodup_one {statement : Except ArgumentFault Statement} {read : List Row → Except Failure ρ}
    {sts : List Statement} (h : (one statement read).statements = .ok sts) : sts.Nodup := by
  obtain ⟨st, -, rfl⟩ := map_eq_ok.1 h
  simp

/-- **A result comes from all rows of the first statement.** -/
theorem reads_of_ok {plan : Plan ρ} {result : ρ} (h : plan.Shows es (some (.ok result))) :
    ∃ statement rest rows, plan.statements = .ok (statement :: rest) ∧
      .answered statement (.ok (rows.map .ok)) ∈ es ∧ plan.Reads rows (.ok result) := by
  rcases plan with ⟨fault | statement, read⟩ | ⟨fault | both, number, finish⟩
  · exact absurd (refused_of_path h).2 (by simp)
  · obtain ⟨rows, rfl, hread⟩ := (asked_of_shows h).of_ok
    exact ⟨statement, [], rows, rfl, by simp, hread⟩
  · exact absurd (refused_of_path h).2 (by simp)
  · obtain ⟨rows, counted, n, hes, -, hfinish⟩ := exists_of_ok h
    exact ⟨both.1, [both.2], rows, rfl, hes.mem_iff.2 (by simp), n, hfinish⟩

/-- **A failure has a cause:** a failure of the database, the rows of the first
statement, or the number that the rows of the second should have. -/
theorem reads_of_error {plan : Plan ρ} {failure : Failure} {statement : Statement}
    {rest : List Statement} (h : plan.Shows es (some (.error failure)))
    (hsts : plan.statements = .ok (statement :: rest)) :
    (∃ st answer, .answered st answer ∈ es ∧ Reports answer failure) ∨
    (∃ rows, .answered statement (.ok (rows.map .ok)) ∈ es ∧ plan.Reads rows (.error failure)) ∨
    ∃ st ∈ rest, ∃ rows, .answered st (.ok (rows.map .ok)) ∈ es ∧
      plan.FailsCounting rows failure := by
  rcases plan with ⟨fault | first, read⟩ | ⟨fault | both, number, finish⟩
  · cases hsts
  · obtain ⟨rfl, rfl⟩ := List.cons.inj (Except.ok.inj hsts)
    rcases (asked_of_shows h).of_error with ⟨answer, hmem, hfail⟩ | ⟨rows, hmem, hfail⟩
    · exact .inl ⟨_, answer, hmem, hfail⟩
    · exact .inr (.inl ⟨rows, hmem, hfail⟩)
  · cases hsts
  · obtain ⟨rfl, rfl⟩ := List.cons.inj (Except.ok.inj hsts)
    obtain ⟨es₁, es₂, o₁, o₂, hperm, hfirst, hsecond, -, ho⟩ := exists_asked h
    have hmem₁ {e : Event} (he : e ∈ es₁) : e ∈ es := hperm.mem_iff.2 (List.mem_append_left _ he)
    have hmem₂ {e : Event} (he : e ∈ es₂) : e ∈ es := hperm.mem_iff.2 (List.mem_append_right _ he)
    obtain ⟨outcome, hjoint, houtcome⟩ := Option.map_eq_some_iff.1 ho.symm
    rcases bind_eq_error.1 houtcome with rfl | ⟨⟨rows, n⟩, rfl, hfinish⟩
    · rcases failed_of_joint hjoint with rfl | rfl
      · rcases hfirst.of_error with ⟨answer, hmem, hfail⟩ | ⟨rows, -, hfail⟩
        · exact .inl ⟨_, answer, hmem₁ hmem, hfail⟩
        · cases hfail
      · rcases hsecond.of_error with ⟨answer, hmem, hfail⟩ | ⟨rows, hmem, hfail⟩
        · exact .inl ⟨_, answer, hmem₂ hmem, hfail⟩
        · exact .inr (.inr ⟨both.2, by simp, rows, hmem₂ hmem, hfail⟩)
    · obtain ⟨rfl, rfl⟩ := joint_eq_ok.1 hjoint
      obtain ⟨rows', rfl, hrows⟩ := hfirst.of_ok
      obtain rfl := Except.ok.inj hrows
      exact .inr (.inl ⟨rows', hmem₁ (by simp), n, hfinish⟩)

/-- A statement that the plan has once is answered once. -/
theorem answer_unique {plan : Plan ρ} (h : plan.Shows es o) {sts : List Statement}
    (hsts : plan.statements = .ok sts) (hnodup : sts.Nodup) {statement : Statement}
    {answer other : Except Failure RowStream} (hmem : .answered statement answer ∈ es)
    (hother : .answered statement other ∈ es) : answer = other := by
  rcases plan with ⟨fault | first, read⟩ | ⟨fault | both, number, finish⟩
  · cases hsts
  · exact (asked_of_shows h).answer_unique hmem hother
  · cases hsts
  · obtain rfl := Except.ok.inj hsts
    obtain ⟨es₁, es₂, o₁, o₂, hperm, hfirst, hsecond, -, -⟩ := exists_asked h
    have hne : both.1 ≠ both.2 := by simpa using hnodup
    rcases List.mem_append.1 (hperm.mem_iff.1 hmem) with hmem | hmem <;>
      rcases List.mem_append.1 (hperm.mem_iff.1 hother) with hother | hother
    · exact hfirst.answer_unique hmem hother
    · exact absurd ((hfirst.of_mem hmem).1.symm.trans (hsecond.of_mem hother).1) hne
    · exact absurd ((hfirst.of_mem hother).1.symm.trans (hsecond.of_mem hmem).1) hne
    · exact hsecond.answer_unique hmem hother

/-! ### One statement after the other -/

/-- The first statement may be answered before the second is sent. -/
theorem path_first (both : Statement × Statement) (number : List Row → Except Failure Int)
    (answer : Except Failure RowStream) :
    Path Pair.Step (pair both number) [.sent both.1, .answered both.1 answer]
      ⟨.ready (.done ((collected answer).bind .ok)), .ready (.ask both.2 number)⟩ :=
  .cons (.first rfl (.fetch _ _)) (.cons (.first rfl (.rows _ _ answer)) (.nil _))

theorem shows_two_of_path {final : Strand ρ}
    (h : Path Strand.Step (.ready (two (.ok both) number finish).session) es final) :
    (two (.ok both) number finish).Shows es final.outcome? := by
  obtain ⟨rfl, rfl⟩ | ⟨rfl, rfl⟩ | ⟨answer, es', rfl, hrest⟩ := Strand.path_fetch h
  · exact ⟨_, .nil _, rfl⟩
  · exact ⟨_, .cons (.first rfl (.fetch _ _)) (.nil _), rfl⟩
  · have hfirst := path_first both number answer
    cases hrows : collected answer with
    | error failure =>
      simp only [hrows] at hrest hfirst
      obtain ⟨rfl, rfl⟩ := Strand.path_done hrest
      exact ⟨_, hfirst, rfl⟩
    | ok rows =>
      simp only [hrows] at hrest hfirst
      obtain ⟨rfl, rfl⟩ | ⟨rfl, rfl⟩ | ⟨counted, es', rfl, hlast⟩ := Strand.path_fetch hrest
      · exact ⟨_, hfirst, rfl⟩
      · exact ⟨_, hfirst.append (.cons (.second rfl (.fetch _ _)) (.nil _)), rfl⟩
      · have hboth := hfirst.append (.cons (.second rfl (.fetch _ _))
          (.cons (.second rfl (.rows _ _ counted)) (.nil _)))
        rw [Session.bind_done] at hlast
        obtain ⟨rfl, rfl⟩ := Strand.path_done hlast
        refine ⟨_, hboth, ?_⟩
        cases (collected counted).bind number <;> rfl

/-- **Asking for one statement after the other is one of the ways to run a
plan.** -/
theorem shows_of_path {plan : Plan ρ} {final : Strand ρ}
    (h : Path Strand.Step (.ready plan.session) es final) : plan.Shows es final.outcome? := by
  rcases plan with ⟨_, _⟩ | ⟨_ | both, number, finish⟩
  · exact ⟨final, h, rfl⟩
  · exact ⟨final, h, rfl⟩
  · exact shows_two_of_path h

end Laws

end Plan

end EntityGraph
