import EntityGraph.Proofs.Bag
import EntityGraph.TextSet
/-!
# Sets of texts by their members

Each operation on sets says which texts are members of its result, and two sets
with the same members are the same set (`ext_mem`). So the set of some texts
does not depend on their order or on repetitions (`ofList_eq_iff`), and it is
listed in strictly ascending order (`toList_ascending`).
-/

namespace EntityGraph.TextSet

variable {s t : TextSet} {text : String}

instance : Membership String TextSet :=
  ⟨fun s text => s.contains text = true⟩

theorem mem_iff_contains : text ∈ s ↔ s.contains text = true := Iff.rfl

instance (text : String) (s : TextSet) : Decidable (text ∈ s) :=
  inferInstanceAs (Decidable (s.contains text = true))

theorem mem_iff_get? : text ∈ s ↔ s.marks.get? text ≠ none := by
  rw [mem_iff_contains, contains, Bag.contains, Option.isSome_iff_ne_none]

/-- The members are the texts that are listed. -/
@[simp] theorem mem_toList : text ∈ s.toList ↔ text ∈ s := by
  rw [toList, Bag.mem_keys_iff, mem_iff_get?]

theorem toList_ascending (s : TextSet) : s.toList.Pairwise (· < ·) := by
  rw [toList, Bag.keys, List.pairwise_map]
  exact s.marks.ascending

/-- **The members determine the set.** -/
theorem ext_mem (h : ∀ text, text ∈ s ↔ text ∈ t) : s = t := by
  cases s with
  | mk a =>
    cases t with
    | mk b =>
      refine congrArg mk (Bag.ext_get? fun key => ?_)
      -- A mark that is there says nothing, so it is the same mark.
      have hkey := h key
      rw [mem_iff_get?, mem_iff_get?] at hkey
      cases ha : a.get? key <;> cases hb : b.get? key <;> simp_all

@[simp] theorem not_mem_empty (text : String) : text ∉ empty := by
  simp [mem_iff_get?, empty]

@[simp] theorem mem_insertAll {texts : List String} :
    text ∈ s.insertAll texts ↔ text ∈ texts ∨ text ∈ s := by
  rw [mem_iff_get?, mem_iff_get?, insertAll, Bag.get?_insertAll, Ne, Option.or_eq_none_iff,
    lastValue?_eq_none_iff, Decidable.not_and_iff_not_or_not, Decidable.not_not]
  simp

@[simp] theorem mem_ofList {texts : List String} : text ∈ ofList texts ↔ text ∈ texts := by
  simp [ofList]

@[simp] theorem mem_filter {keep : String → Bool} :
    text ∈ s.filter keep ↔ text ∈ s ∧ keep text = true := by
  rw [mem_iff_get?, mem_iff_get?, filter, Bag.get?_filter]
  cases s.marks.get? text <;> simp [Option.filter]

@[simp] theorem mem_difference : text ∈ s.difference t ↔ text ∈ s ∧ text ∉ t := by
  rw [difference, mem_filter, mem_iff_contains (s := t), Bool.not_eq_true, Bool.not_eq_true']

@[simp] theorem mem_union : text ∈ s.union t ↔ text ∈ t ∨ text ∈ s := by
  rw [union, mem_insertAll, mem_toList]

theorem isEmpty_iff : s.isEmpty = true ↔ ∀ text, text ∉ s := by
  rw [isEmpty, List.isEmpty_iff, List.eq_nil_iff_forall_not_mem]
  simp only [mem_toList]

/-- A set of texts depends on which texts there are, and on nothing else. -/
theorem ofList_eq_iff {texts texts' : List String} :
    ofList texts = ofList texts' ↔ ∀ text, text ∈ texts ↔ text ∈ texts' := by
  constructor
  · intro h text
    rw [← mem_ofList, h, mem_ofList]
  · exact fun h => ext_mem fun text => by rw [mem_ofList, mem_ofList, h text]

end EntityGraph.TextSet
