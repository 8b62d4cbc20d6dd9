import EntityGraph.Proofs.Repository.Operation
import EntityGraph.Proofs.Store.Reading
import EntityGraph.Social.Basic
/-!
# Deletions over a store

A deletion reaches the node of its label whose number is read in the identifier
(`Reaches`), and there is one such node at most. Soft deletion sets its time of
deletion and detaching deletion takes it out, and neither touches another node.
What they tell is not the same: detaching deletion tells that a node was taken
out whenever one was, while soft deletion compares texts, so of all the
spellings of a number it tells that a node was marked for the shortest one
only (`tellsDeletions`).
-/

namespace EntityGraph

namespace Store

variable (db : Database) (store : Store) (label id : String)

/-- A deletion of an identifier reaches the node with a number: the label is
accepted, the node has it, and its number is read in the identifier. -/
def Reaches (n : Int) : Prop :=
  isName label = true ∧ db.toInteger id = some n ∧
    ∃ node ∈ store.nodes, label ∈ node.labels ∧ node.id = n

variable {db store label id}

theorem Reaches.unique {n m : Int} (hn : store.Reaches db label id n)
    (hm : store.Reaches db label id m) : n = m :=
  Option.some.inj (hn.2.1.symm.trans hm.2.1)

theorem mem_selected {n : Int} : n ∈ db.selected store label id ↔
    db.toInteger id = some n ∧ ∃ node ∈ store.nodes, label ∈ node.labels ∧ node.id = n := by
  simp only [Database.selected, List.mem_map, List.mem_filter, Bool.and_eq_true,
    List.contains_iff_mem, beq_iff_eq]
  constructor
  · rintro ⟨node, ⟨hnode, hlabel, hid⟩, rfl⟩
    exact ⟨hid, node, hnode, hlabel, rfl⟩
  · rintro ⟨hid, node, hnode, hlabel, rfl⟩
    exact ⟨node, ⟨hnode, hlabel, hid⟩, rfl⟩

/-- No two nodes have the number that is read in a text. -/
theorem selected_eq_singleton {n : Int} (h : n ∈ db.selected store label id) :
    db.selected store label id = [n] := by
  have hnodup : (db.selected store label id).Nodup :=
    store.nodup.sublist (List.filter_sublist.map Stored.id)
  refine List.perm_singleton.1 ((List.perm_ext_iff_of_nodup hnodup (List.nodup_singleton n)).2
    fun m => ?_)
  rw [List.mem_singleton]
  constructor
  · intro hm
    exact Option.some.inj ((mem_selected.1 hm).1.symm.trans (mem_selected.1 h).1)
  · rintro rfl
    exact h

/-- What a spelled number reaches is the node with that number. -/
theorem reaches_iff_of_spelled {n m : Int} (h : Number.spelled? id = some m)
    (hlo : Number.int64Min ≤ m) (hhi : m ≤ Number.int64Max) : store.Reaches db label id n ↔
      n = m ∧ isName label = true ∧ ∃ node ∈ store.nodes, label ∈ node.labels ∧ node.id = m := by
  rw [Reaches, db.toInteger_of_spelled h hlo hhi]
  constructor
  · rintro ⟨hlabel, hm, hnode⟩
    obtain rfl := Option.some.inj hm
    exact ⟨rfl, hlabel, hnode⟩
  · rintro ⟨rfl, hlabel, hnode⟩
    exact ⟨hlabel, rfl, hnode⟩

theorem not_reaches_of_readFloat {n : Int} {fault : Number.NumeralFault}
    (h : Number.readFloat id = .error fault) : ¬store.Reaches db label id n := by
  rintro ⟨-, hid, -⟩
  simp [db.toInteger_of_readFloat h] at hid

/-- The selection is the node that is reached, or there is none. -/
theorem nil_or_reaches (db : Database) (store : Store) (id : String)
    (hlabel : isName label = true) :
    (db.selected store label id = [] ∧ ∀ n, ¬store.Reaches db label id n) ∨
      ∃ n, db.selected store label id = [n] ∧ store.Reaches db label id n := by
  cases hselected : db.selected store label id with
  | nil =>
    refine .inl ⟨rfl, fun n hn => ?_⟩
    have hmem := mem_selected.2 hn.2
    simp [hselected] at hmem
  | cons n rest =>
    have hmem : n ∈ db.selected store label id := hselected ▸ List.mem_cons_self
    exact .inr ⟨n, hselected ▸ selected_eq_singleton hmem, hlabel, mem_selected.1 hmem⟩

/-! ### The runs -/

section Runs

variable {α : Type} [Entity α] {db : Database} {repo : Repository α} {store : Store} {id : String}

/-- Asking for the rows of a statement that is read. -/
theorem runWith_ask {ρ : Type} {statement : Statement} {clauses : List Clause}
    (hclauses : statement.clauses? = some clauses) (read : List Row → Except Failure ρ) :
    (Session.ask statement read).runWith (db.executor store) [] =
      (read (db.run store statement.parameters [] clauses).rows,
        (db.run store statement.parameters [] clauses).changes) := by
  have hanswer : (db.executor store).fetch statement [] =
      (.ok ((db.run store statement.parameters [] clauses).rows.map .ok),
        (db.run store statement.parameters [] clauses).changes) := by
    simp [Database.executor, Database.answer, hclauses, Except.map]
  show (((collected ((db.executor store).fetch statement []).1).bind read,
    ((db.executor store).fetch statement []).2) : _ × _) = _
  rw [hanswer, collected_eq_ok.2 rfl]
  rfl

/-- What a deletion comes to: the change of the node that it reaches, and an
outcome that depends on it; or nothing, and no success. -/
inductive Comes (db : Database) (store : Store) (label id : String) (change : Int → Change)
    (told : Int → Bool) : Except Failure Bool × List Change → Prop
  | missed (outcome : Except Failure Bool) (hreaches : ∀ n, ¬store.Reaches db label id n)
      (hfalse : outcome ≠ .ok true) : Comes db store label id change told (outcome, [])
  | reached (n : Int) (hreaches : store.Reaches db label id n) :
      Comes db store label id change told (.ok (told n), [change n])

/-- A statement that selects a node by an identifier and goes on with two more
clauses, of which one changes what is bound and the other returns it. -/
theorem comes_one {statement : Except ArgumentFault Statement}
    {read : List Row → Except Failure Bool} {label : String} {act last : Clause}
    {change : Int → Change} {told : Int → Bool}
    (hrefused : isName label ≠ true → ∃ fault, statement = .error fault)
    (hclauses : isName label = true → ∃ st, statement = .ok st ∧
      st.parameters.get? "id" = some (.str id) ∧
      st.clauses? = some [.select label "id", act, last])
    (hmissed : ∀ parameters, ∃ p : Progress, [act, last].foldl (db.step store parameters) {} = p ∧
      p.changes = [] ∧ read p.rows ≠ .ok true)
    (hreached : ∀ parameters n, ∃ p : Progress,
      [act, last].foldl (db.step store parameters) { bound := [n] } = p ∧
      p.changes = [change n] ∧ read p.rows = .ok (told n)) :
    Comes db store label id change told
      ((Plan.one statement read).session.runWith (db.executor store) []) := by
  by_cases hlabel : isName label = true
  · obtain ⟨st, rfl, hid, hst⟩ := hclauses hlabel
    have hrun : db.run store st.parameters [] [.select label "id", act, last] =
        [act, last].foldl (db.step store st.parameters)
          { bound := db.selected store label id } := by
      simp [Database.run, Database.step, Database.parameterText?, hid, Json.asText?, Store.after]
    rw [Plan.session, runWith_ask hst, hrun]
    obtain ⟨hselected, hreaches⟩ | ⟨n, hselected, hreaches⟩ := nil_or_reaches db store id hlabel
    · obtain ⟨p, hp, hchanges, hread⟩ := hmissed st.parameters
      rw [hselected, hp, hchanges]
      exact .missed _ hreaches hread
    · obtain ⟨p, hp, hchanges, hread⟩ := hreached st.parameters n
      rw [hselected, hp, hchanges, hread]
      exact .reached n hreaches
  · obtain ⟨fault, rfl⟩ := hrefused hlabel
    exact .missed _ (fun n hn => hlabel hn.1) (by simp)

/-- **Soft deletion** tells whether the number that it marked is written as the
identifier is. -/
theorem comes_delete (db : Database) (repo : Repository α) (store : Store) (id : String) :
    Comes db store repo.label id (.set · "deleted_at" (.str db.now)) (toString · == id)
      ((repo.delete id).runWith (db.executor store) []) := by
  have hsession : repo.delete id = _ := Operation.session_eq repo (.delete id)
  rw [hsession]
  refine comes_one (fun hlabel => ⟨.notAName "label" repo.label, ?_⟩) Statement.clauses?_softDelete
    (fun parameters => ⟨_, rfl, rfl, fun h => Bool.false_ne_true (Except.ok.inj h)⟩)
    (fun parameters n => ⟨_, rfl, rfl, rfl⟩)
  rw [Statement.softDelete, Statement.Identifier.ofText, dif_neg hlabel]
  rfl

/-- **Detaching deletion** tells that a node was taken out whenever one was. -/
theorem comes_detachDelete (db : Database) (repo : Repository α) (store : Store) (id : String) :
    Comes db store repo.label id .remove (fun _ => true)
      ((repo.detachDelete id).runWith (db.executor store) []) := by
  have hsession : repo.detachDelete id = _ := Operation.session_eq repo (.detachDelete id)
  rw [hsession]
  refine comes_one (fun hlabel => ⟨.notAName "label" repo.label, ?_⟩)
    Statement.clauses?_detachDelete
    (fun parameters => ⟨_, rfl, rfl, fun h => Bool.false_ne_true (Except.ok.inj h)⟩)
    (fun parameters n => ⟨_, rfl, rfl, rfl⟩)
  rw [Statement.detachDelete, Statement.Identifier.ofText, dif_neg hlabel]
  rfl

end Runs

/-! ### What is done and what is told -/

namespace Comes

variable {change : Int → Change} {told : Int → Bool} {run : Except Failure Bool × List Change}

theorem eq_of_reaches (h : Comes db store label id change told run) {n : Int}
    (hn : store.Reaches db label id n) : run = (.ok (told n), [change n]) := by
  cases h with
  | missed _ hreaches _ => exact absurd hn (hreaches n)
  | reached m hm => rw [hm.unique hn]

theorem changes_eq_nil (h : Comes db store label id change told run)
    (hreaches : ∀ n, ¬store.Reaches db label id n) : run.2 = [] := by
  cases h with
  | missed _ _ _ => rfl
  | reached n hn => exact absurd hn (hreaches n)

/-- Success is told of the node that is reached, where it is told of it. -/
theorem eq_ok_true_iff (h : Comes db store label id change told run) :
    run.1 = .ok true ↔ ∃ n, store.Reaches db label id n ∧ told n = true := by
  cases h with
  | missed outcome hreaches hfalse =>
    exact ⟨fun h => absurd h hfalse, fun ⟨n, hn, _⟩ => absurd hn (hreaches n)⟩
  | reached n hn =>
    constructor
    · intro h
      exact ⟨n, hn, Except.ok.inj h⟩
    · rintro ⟨m, hm, htold⟩
      exact congrArg Except.ok (hn.unique hm ▸ htold)

/-- The node that is reached is changed, and no other one is. -/
theorem mem_iff (h : Comes db store label id change told run) {c : Change} :
    c ∈ run.2 ↔ ∃ n, store.Reaches db label id n ∧ c = change n := by
  cases h with
  | missed outcome hreaches _ => simpa using fun n hn => absurd hn (hreaches n)
  | reached n hn =>
    rw [List.mem_singleton]
    constructor
    · intro hc
      exact ⟨n, hn, hc⟩
    · rintro ⟨m, hm, rfl⟩
      rw [hn.unique hm]

end Comes

/-- Some changes set the time of deletion of a node. -/
def Marks (changes : List Change) (n : Int) : Prop :=
  ∃ value, .set n "deleted_at" value ∈ changes

/-- Some changes take a node out. -/
def Removes (changes : List Change) (n : Int) : Prop :=
  .remove n ∈ changes

/-- What the two deletions of an identifier do to a store, and what they tell.
Each is given by its outcome and its changes. -/
structure TellsDeletions (db : Database) (store : Store) (label id : String)
    (soft hard : Except Failure Bool × List Change) : Prop where
  /-- The number that an identifier spells is the one of the node it reaches. -/
  reaches_iff : ∀ m, Number.spelled? id = some m → Number.int64Min ≤ m → m ≤ Number.int64Max →
    ∀ n, store.Reaches db label id n ↔
      n = m ∧ isName label = true ∧ ∃ node ∈ store.nodes, label ∈ node.labels ∧ node.id = m
  /-- A text that is no number reaches nothing. -/
  not_reaches : ∀ fault, Number.readFloat id = .error fault → ∀ n, ¬store.Reaches db label id n
  /-- Soft deletion marks the node that is reached, and detaching deletion takes
  the same one out. -/
  marks_iff : ∀ n, Marks soft.2 n ↔ store.Reaches db label id n
  removes_iff : ∀ n, Removes hard.2 n ↔ store.Reaches db label id n
  /-- The node that is marked was there, keeps everything but the mark, and is
  the only one that is changed. -/
  marks_one : ∀ n, Marks soft.2 n → soft.2.length = 1 ∧
    (∃ node, store.node? n = some node ∧ label ∈ node.labels ∧
      (store.after soft.2).node? n = some { node with
        properties := node.properties.insert "deleted_at" (.str db.now) }) ∧
    ∀ other, other ≠ n → (store.after soft.2).node? other = store.node? other
  /-- The node that is taken out was there, and is the only one that is taken
  out. -/
  removes_one : ∀ n, Removes hard.2 n → hard.2.length = 1 ∧
    (∃ node, store.node? n = some node ∧ label ∈ node.labels) ∧
    (store.after hard.2).node? n = none ∧
    ∀ other, other ≠ n → (store.after hard.2).node? other = store.node? other
  /-- Where nothing is reached nothing changes. -/
  unchanged : (∀ n, ¬store.Reaches db label id n) → soft.2 = [] ∧ hard.2 = []
  /-- Detaching deletion tells what it did. -/
  hard_told : hard.1 = .ok true ↔ ∃ n, Removes hard.2 n
  /-- Soft deletion tells that it marked the node whose number is written as the
  identifier is. -/
  soft_told : soft.1 = .ok true ↔ ∃ n, Marks soft.2 n ∧ id = toString n
  /-- So it tells what it did exactly when the identifier is written as numbers
  are, or reaches nothing. -/
  soft_told_iff : (soft.1 = .ok true ↔ ∃ n, Marks soft.2 n) ↔
    ∀ n, Marks soft.2 n → id = toString n
  /-- Of a node that is there, both tell by its number as it is written. -/
  told_of_written : ∀ node ∈ store.nodes, isName label = true → label ∈ node.labels →
    id = toString node.id → soft.1 = .ok true ∧ hard.1 = .ok true

theorem Reaches.node?_eq_some {n : Int} (h : store.Reaches db label id n) :
    ∃ node, store.node? n = some node ∧ label ∈ node.labels := by
  obtain ⟨-, -, node, hnode, hlabel, rfl⟩ := h
  exact ⟨node, node?_eq_some_iff.2 ⟨hnode, rfl⟩, hlabel⟩

section Told

variable {soft hard : Except Failure Bool × List Change}

theorem marks_iff_reaches (h : Comes db store label id (.set · "deleted_at" (.str db.now))
    (toString · == id) soft) {n : Int} : Marks soft.2 n ↔ store.Reaches db label id n := by
  simp only [Marks, h.mem_iff, Change.set.injEq, true_and]
  constructor
  · rintro ⟨value, m, hm, rfl, -⟩
    exact hm
  · intro hn
    exact ⟨_, n, hn, rfl, rfl⟩

theorem removes_iff_reaches {told : Int → Bool}
    (h : Comes db store label id .remove told hard) {n : Int} :
    Removes hard.2 n ↔ store.Reaches db label id n := by
  simp [Removes, h.mem_iff]

/-- A mark changes one node. -/
theorem node?_after_mark {n : Int} {node : Stored} (hnode : store.node? n = some node)
    (value : Json) : (store.after [.set n "deleted_at" value]).node? n =
        some { node with properties := node.properties.insert "deleted_at" value } ∧
      ∀ other, other ≠ n →
        (store.after [.set n "deleted_at" value]).node? other = store.node? other := by
  simp only [after, List.foldl_cons, List.foldl_nil, node?_change_set]
  constructor
  · rw [hnode, Option.map_some, setIn, if_pos (node?_eq_some_iff.1 hnode).2]
  · intro other hother
    cases hfound : store.node? other with
    | none => rfl
    | some found =>
      have hid : found.id = other := (node?_eq_some_iff.1 hfound).2
      rw [Option.map_some, setIn, if_neg (hid ▸ hother)]

/-- A node is reached by its number as it is written. -/
theorem reaches_toString {node : Stored} (hnode : node ∈ store.nodes) (hname : isName label = true)
    (hlabel : label ∈ node.labels) : store.Reaches db label (toString node.id) node.id := by
  obtain ⟨hlow, hhigh⟩ := store.bounded node hnode
  have hmin : Number.int64Min ≤ node.id := Int.le_trans (by decide) hlow
  rw [reaches_iff_of_spelled (Number.spelled?_toString hlow) hmin hhigh]
  exact ⟨rfl, hname, node, hnode, hlabel, rfl⟩

theorem soft_told_iff_exists (h : Comes db store label id (.set · "deleted_at" (.str db.now))
    (toString · == id) soft) : soft.1 = .ok true ↔ ∃ n, Marks soft.2 n ∧ id = toString n := by
  rw [h.eq_ok_true_iff]
  exact exists_congr fun n => and_congr (marks_iff_reaches h).symm (beq_iff_eq.trans eq_comm)

/-- No other number is marked, so telling of one spelling is telling what was
done when no other spelling marks a node. -/
theorem soft_told_iff_forall (h : Comes db store label id (.set · "deleted_at" (.str db.now))
    (toString · == id) soft) :
    (soft.1 = .ok true ↔ ∃ n, Marks soft.2 n) ↔ ∀ n, Marks soft.2 n → id = toString n := by
  rw [soft_told_iff_exists h]
  constructor
  · intro htold n hn
    obtain ⟨m, hm, rfl⟩ := htold.2 ⟨n, hn⟩
    rw [((marks_iff_reaches h).1 hm).unique ((marks_iff_reaches h).1 hn)]
  · intro hall
    exact ⟨fun ⟨n, hn, _⟩ => ⟨n, hn⟩, fun ⟨n, hn⟩ => ⟨n, hn, hall n hn⟩⟩

theorem tellsDeletions_of_comes (hsoft : Comes db store label id
    (.set · "deleted_at" (.str db.now)) (toString · == id) soft)
    (hhard : Comes db store label id .remove (fun _ => true) hard) :
    TellsDeletions db store label id soft hard where
  reaches_iff _ hm hlo hhi _ := reaches_iff_of_spelled hm hlo hhi
  not_reaches _ hfault _ := not_reaches_of_readFloat hfault
  marks_iff _ := marks_iff_reaches hsoft
  removes_iff _ := removes_iff_reaches hhard
  marks_one n hn := by
    have hreaches := (marks_iff_reaches hsoft).1 hn
    obtain ⟨node, hnode, hlabel⟩ := hreaches.node?_eq_some
    rw [hsoft.eq_of_reaches hreaches]
    obtain ⟨hmarked, hothers⟩ := node?_after_mark hnode (.str db.now)
    exact ⟨rfl, ⟨node, hnode, hlabel, hmarked⟩, hothers⟩
  removes_one n hn := by
    have hreaches := (removes_iff_reaches hhard).1 hn
    rw [hhard.eq_of_reaches hreaches]
    refine ⟨rfl, hreaches.node?_eq_some, ?_, fun other hother => ?_⟩
    · exact (node?_change_remove store n n).trans (if_pos rfl)
    · exact (node?_change_remove store n other).trans (if_neg hother)
  unchanged hreaches := ⟨hsoft.changes_eq_nil hreaches, hhard.changes_eq_nil hreaches⟩
  hard_told := by simp [hhard.eq_ok_true_iff, removes_iff_reaches hhard]
  soft_told := soft_told_iff_exists hsoft
  soft_told_iff := soft_told_iff_forall hsoft
  told_of_written node hnode hname hlabel hid := by
    have hreaches : store.Reaches db label id node.id :=
      hid ▸ reaches_toString hnode hname hlabel
    exact ⟨hsoft.eq_ok_true_iff.2 ⟨_, hreaches, beq_iff_eq.2 hid.symm⟩,
      hhard.eq_ok_true_iff.2 ⟨_, hreaches, rfl⟩⟩

end Told

/-- **Deletions over a store.** For every database, store, label and identifier:
the deletions reach the same node, one at most; each changes that node and
nothing else; detaching deletion tells what it did, and soft deletion does so
exactly when the identifier is the shortest spelling of the number that it
reaches, or reaches nothing. -/
theorem tellsDeletions {α : Type} [Entity α] (db : Database) (repo : Repository α) (store : Store)
    (id : String) : TellsDeletions db store repo.label id
      ((repo.delete id).runWith (db.executor store) [])
      ((repo.detachDelete id).runWith (db.executor store) []) :=
  tellsDeletions_of_comes (comes_delete db repo store id) (comes_detachDelete db repo store id)

/-- A store with one post, and a spelling of its number that is not the
shortest: the post is marked and soft deletion tells that it was not there. -/
theorem not_told_of_leading_zeros :
    let db := Database.spelling "2024-05-01T12:00:00Z"
    let store : Store := ⟨[{ id := 7, labels := ["Post"] }], by decide, by decide⟩
    let soft := ((Repository.standard Social.Post).delete "007").runWith (db.executor store) []
    let hard := ((Repository.standard Social.Post).detachDelete "007").runWith (db.executor store) []
    soft = (.ok false, [.set 7 "deleted_at" (.str db.now)]) ∧ hard = (.ok true, [.remove 7]) ∧
      ¬(soft.1 = .ok true ↔ ∃ n, Marks soft.2 n) := by
  intro db store soft hard
  have hreaches : store.Reaches db "Post" "007" 7 := by
    refine ⟨by decide, by decide, { id := 7, labels := ["Post"] }, ?_, ?_, rfl⟩ <;>
      exact List.mem_singleton.2 rfl
  have hsoft : soft = (.ok (toString (7 : Int) == "007"), [.set 7 "deleted_at" (.str db.now)]) :=
    (comes_delete db _ store "007").eq_of_reaches hreaches
  have hspelling : (toString (7 : Int) == "007") = false := by decide
  rw [hspelling] at hsoft
  have hhard : hard = (.ok true, [.remove 7]) :=
    (comes_detachDelete db _ store "007").eq_of_reaches hreaches
  refine ⟨hsoft, hhard, fun h => ?_⟩
  rw [hsoft] at h
  have htrue := h.2 ⟨7, _, List.mem_singleton.2 rfl⟩
  simp at htrue

end Store

end EntityGraph
