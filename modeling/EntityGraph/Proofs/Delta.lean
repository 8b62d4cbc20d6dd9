import EntityGraph.Proofs.TextSet
/-!
# Reconciliation

The difference between two sets holds what is to be removed from the one and
added to it to arrive at the other, and nothing that both agree on
(`isLeast_between`). Applying it arrives there (`apply_between`), so after any
number of reconciliations the set is the one that was wanted last
(`reconcileAll_last`).
-/

namespace EntityGraph.Delta

/-- The set after the difference to some desired texts was computed and
applied. -/
def reconcile (current : TextSet) (desired : List String) : TextSet :=
  (between current (.ofList desired)).apply current

/-- The set after one reconciliation for each of some lists. -/
def reconcileAll (start : TextSet) (lists : List (List String)) : TextSet :=
  lists.foldl reconcile start

/-- A difference that says what has to change from a current set to some
desired texts, and no more than that. -/
structure IsLeast (d : Delta) (current : TextSet) (desired : List String) : Prop where
  /-- Removed is what is there and not desired. -/
  mem_toRemove : ∀ text, text ∈ d.toRemove ↔ text ∈ current ∧ text ∉ desired
  /-- Added is what is desired and not there. -/
  mem_toAdd : ∀ text, text ∈ d.toAdd ↔ text ∈ desired ∧ text ∉ current
  /-- Nothing is to be done exactly when all that is desired is there, and
  nothing else. -/
  isEmpty_iff : d.isEmpty = true ↔ ∀ text, text ∈ current ↔ text ∈ desired

variable {current desired : TextSet}

theorem isEmpty_between_iff : (between current desired).isEmpty = true ↔ current = desired := by
  rw [isEmpty, Bool.and_eq_true, TextSet.isEmpty_iff, TextSet.isEmpty_iff]
  simp only [between, TextSet.mem_difference, not_and, Decidable.not_not]
  constructor
  · rintro ⟨hremove, hadd⟩
    exact TextSet.ext_mem fun text => ⟨hremove text, hadd text⟩
  · rintro rfl
    exact ⟨fun _ h => h, fun _ h => h⟩

theorem isLeast_between (current : TextSet) (desired : List String) :
    (between current (.ofList desired)).IsLeast current desired := by
  refine ⟨fun text => by simp [between], fun text => by simp [between], ?_⟩
  rw [isEmpty_between_iff]
  constructor
  · rintro rfl text
    exact TextSet.mem_ofList
  · exact fun h => TextSet.ext_mem fun text => (h text).trans TextSet.mem_ofList.symm

/-- **Applying a difference arrives at the desired set.** -/
theorem apply_between (current desired : TextSet) :
    (between current desired).apply current = desired := by
  refine TextSet.ext_mem fun text => ?_
  simp only [apply, between, TextSet.mem_union, TextSet.mem_difference]
  by_cases hcurrent : text ∈ current <;> by_cases hdesired : text ∈ desired <;>
    simp [hcurrent, hdesired]

/-- One reconciliation forgets what was there. -/
@[simp] theorem reconcile_eq (current : TextSet) (desired : List String) :
    reconcile current desired = .ofList desired :=
  apply_between current (.ofList desired)

/-- So all of them together leave what was wanted last. -/
theorem reconcileAll_append (start : TextSet) (earlier : List (List String))
    (last : List String) : reconcileAll start (earlier ++ [last]) = .ofList last := by
  induction earlier generalizing start with
  | nil => exact reconcile_eq start last
  | cons desired earlier ih => exact ih (reconcile start desired)

/-- **What was wanted last is what remains,** whatever there was at first and
was wanted in between. Each difference on the way is the least one, the one to
what is wanted once more is empty, and none depends on the order of texts or on
repetitions. -/
theorem reconcileAll_last (start : TextSet) (earlier : List (List String)) (last : List String) :
    (∀ text, text ∈ reconcileAll start (earlier ++ [last]) ↔ text ∈ last) ∧
    (∀ desired, (between (reconcileAll start earlier) (.ofList desired)).IsLeast
      (reconcileAll start earlier) desired) ∧
    (between (reconcileAll start (earlier ++ [last])) (.ofList last)).isEmpty = true ∧
    ∀ current current' desired desired' : List String,
      (∀ text, text ∈ current ↔ text ∈ current') → (∀ text, text ∈ desired ↔ text ∈ desired') →
      between (.ofList current) (.ofList desired) = between (.ofList current') (.ofList desired') := by
  refine ⟨fun text => ?_, isLeast_between _, ?_, fun _ _ _ _ hcurrent hdesired => ?_⟩
  · rw [reconcileAll_append, TextSet.mem_ofList]
  · rw [reconcileAll_append, isEmpty_between_iff]
  · rw [TextSet.ofList_eq_iff.2 hcurrent, TextSet.ofList_eq_iff.2 hdesired]

theorem reconcileAll_last_changeOfMind :
    (∀ text, text ∈ reconcileAll (.ofList ["a", "x"]) ([["b", "a", "b"], []] ++ [["c", "b"]]) ↔
      text ∈ ["c", "b"]) ∧
    between (.ofList ["x", "a", "x"]) (.ofList ["c", "b", "c"]) =
      between (.ofList ["a", "x"]) (.ofList ["b", "c"]) := by
  have hlast := reconcileAll_last (.ofList ["a", "x"]) [["b", "a", "b"], []] ["c", "b"]
  have hcurrent : ∀ text, text ∈ ["x", "a", "x"] ↔ text ∈ ["a", "x"] := by grind
  have hdesired : ∀ text, text ∈ ["c", "b", "c"] ↔ text ∈ ["b", "c"] := by grind
  exact ⟨hlast.1, hlast.2.2.2 _ _ _ _ hcurrent hdesired⟩

end EntityGraph.Delta
