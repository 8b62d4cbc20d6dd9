import EntityGraph.Proofs.Delta
import EntityGraph.Proofs.Outcome
import EntityGraph.Proofs.Text.ByteOrder
import EntityGraph.Statement.Edge
/-!
# The targets of a synchronisation

The statement that makes the relationships of a type lead to exactly some
targets depends on which targets these are, and neither on their order nor on
repetitions (`syncEdges_depends_on_set`). It is told each of them once, in the
order of their bytes, and they are what a preview of the synchronisation
arrives at, whatever the relationships lead to before.
-/

namespace EntityGraph.Statement

/-- What a synchronisation to some targets is told. -/
structure TellsTargets (statement : Statement) (targets told : List String) : Prop where
  bound : statement.parameters.get? "target_ids" = some (.ofTexts told)
  /-- No target is told twice, and all of them in the order of their bytes. -/
  ascending : told.Pairwise fun s t => Text.bytes s < Text.bytes t
  mem_told : ∀ target, target ∈ told ↔ target ∈ targets
  /-- From no target at all, these are the ones to be added. -/
  toAdd : (Delta.between (.ofList []) (.ofList targets)).toAdd.toList = told
  /-- From any targets, these are the ones that a preview arrives at. -/
  previewed : ∀ current, ((Delta.between (.ofList current) (.ofList targets)).apply
    (.ofList current)).toList = told

variable {sourceId type : String} {direction : Direction} {targets targets' : List String}

theorem syncEdges_congr (h : ∀ target, target ∈ targets ↔ target ∈ targets') :
    syncEdges sourceId type targets direction = syncEdges sourceId type targets' direction := by
  rw [syncEdges, syncEdges, TextSet.ofList_eq_iff.2 h]

/-- A synchronisation is bound to the set of its targets. -/
theorem targetIds_syncEdges {statement : Statement}
    (h : syncEdges sourceId type targets direction = .ok statement) :
    statement.parameters.get? "target_ids" = some (.ofTexts (TextSet.ofList targets).toList) := by
  obtain ⟨type, -, h⟩ := bind_eq_ok.1 h
  obtain rfl := pure_eq_ok.1 h
  exact Bag.get?_ofList _ _

theorem exists_syncEdges (htype : isName type = true) :
    ∃ statement, syncEdges sourceId type targets direction = .ok statement := by
  rw [syncEdges, Identifier.ofText, dif_pos htype]
  exact ⟨_, rfl⟩

/-- The members of a set stand in the order of their bytes. -/
theorem toList_ascending_bytes (s : TextSet) :
    s.toList.Pairwise fun s t => Text.bytes s < Text.bytes t :=
  s.toList_ascending.imp Text.bytes_lt_bytes_iff.2

theorem toAdd_between_nil (targets : List String) :
    (Delta.between (.ofList []) (.ofList targets)).toAdd = .ofList targets := by
  refine TextSet.ext_mem fun target => ?_
  rw [(Delta.isLeast_between _ _).mem_toAdd, TextSet.mem_ofList, TextSet.mem_ofList]
  simp

theorem tellsTargets_syncEdges {statement : Statement}
    (h : syncEdges sourceId type targets direction = .ok statement) :
    statement.TellsTargets targets (TextSet.ofList targets).toList where
  bound := targetIds_syncEdges h
  ascending := toList_ascending_bytes _
  mem_told _ := by rw [TextSet.mem_toList, TextSet.mem_ofList]
  toAdd := by rw [toAdd_between_nil]
  previewed _ := by rw [Delta.apply_between]

/-- **A synchronisation depends on its targets as a set.** For every accepted
type there is a statement, which is told each target once and in the order of
bytes, the same ones that a preview arrives at; and every list of the same
targets, in any order and with any repetitions, gives the same statement. -/
theorem syncEdges_depends_on_set (sourceId : String) (direction : Direction)
    (targets : List String) (htype : isName type = true) :
    ∃ statement told, syncEdges sourceId type targets direction = .ok statement ∧
      statement.TellsTargets targets told ∧
      ∀ targets', (∀ target, target ∈ targets' ↔ target ∈ targets) →
        syncEdges sourceId type targets' direction = .ok statement := by
  obtain ⟨statement, hstatement⟩ : ∃ statement,
      syncEdges sourceId type targets direction = .ok statement := exists_syncEdges htype
  exact ⟨statement, _, hstatement, tellsTargets_syncEdges hstatement,
    fun targets' h => (syncEdges_congr h).trans hstatement⟩

theorem syncEdges_depends_on_set_likes : isName "LIKE" = true ∧
    (∀ target, target ∈ ["zoë", "2", "10", "2"] ↔ target ∈ ["10", "zoë", "2"]) ∧
    ∃ statement told, syncEdges "1" "LIKE" ["10", "zoë", "2"] .outgoing = .ok statement ∧
      statement.TellsTargets ["10", "zoë", "2"] told ∧
      syncEdges "1" "LIKE" ["zoë", "2", "10", "2"] .outgoing = .ok statement := by
  have htype : isName "LIKE" = true := by decide
  have hsame : ∀ target, target ∈ ["zoë", "2", "10", "2"] ↔ target ∈ ["10", "zoë", "2"] := by
    grind
  obtain ⟨statement, told, hstatement, htells, hcongr⟩ :=
    syncEdges_depends_on_set "1" .outgoing ["10", "zoë", "2"] htype
  exact ⟨htype, hsame, statement, told, hstatement, htells, hcongr _ hsame⟩

end EntityGraph.Statement
