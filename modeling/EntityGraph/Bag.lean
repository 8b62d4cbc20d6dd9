/-!
# Bags of named values

A finite map from texts to values, kept as a list in strictly ascending order
of keys, so that two bags with the same look-ups are the same bag. The
properties of a node, the parameters of a statement and the columns of a row
are bags. Main statements: what `insert` does to each look-up
(`get?_insert`), and that look-ups determine the bag (`ext_get?`).
-/

namespace EntityGraph

/-- Puts a value under a key into a list in ascending order of keys, in the
place of what the key had before. -/
def insertSorted {α : Type} (key : String) (value : α) : List (String × α) → List (String × α)
  | [] => [(key, value)]
  | entry :: rest =>
    if key < entry.1 then (key, value) :: entry :: rest
    else if key = entry.1 then (key, value) :: rest
    else entry :: insertSorted key value rest

/-- The value under a key in a list of entries, the first if there are
several. -/
def lookupEntry {α : Type} (key : String) : List (String × α) → Option α
  | [] => none
  | entry :: rest => if key = entry.1 then some entry.2 else lookupEntry key rest

/-- The keys of the entries strictly ascend. -/
def KeysAscend {α : Type} (entries : List (String × α)) : Prop :=
  entries.Pairwise fun a b => a.1 < b.1

/-- The entries of an insertion are the new one and old ones. -/
theorem mem_insertSorted {α : Type} {key : String} {value : α} {e : String × α}
    {entries : List (String × α)} (h : e ∈ insertSorted key value entries) :
    e = (key, value) ∨ e ∈ entries := by
  induction entries with
  | nil => simpa [insertSorted] using h
  | cons x rest ih =>
    rw [insertSorted] at h
    split at h
    · simpa using h
    · split at h
      · simp only [List.mem_cons] at h ⊢
        exact h.imp id .inr
      · simp only [List.mem_cons] at h ⊢
        rcases h with h | h
        · exact .inr (.inl h)
        · exact (ih h).imp id .inr

/-- An insertion keeps the keys in ascending order. -/
theorem KeysAscend.insertSorted {α : Type} {entries : List (String × α)} (key : String)
    (value : α) (h : KeysAscend entries) : KeysAscend (insertSorted key value entries) := by
  induction entries with
  | nil => simp [EntityGraph.insertSorted, KeysAscend]
  | cons x rest ih =>
    have ⟨hx, hrest⟩ := List.pairwise_cons.1 h
    rw [EntityGraph.insertSorted]
    split
    · next hlt =>
      refine List.pairwise_cons.2 ⟨fun e he => ?_, h⟩
      rcases List.mem_cons.1 he with rfl | he
      · exact hlt
      · exact String.lt_trans hlt (hx e he)
    · next hlt =>
      split
      · next heq => exact List.pairwise_cons.2 ⟨fun e he => heq ▸ hx e he, hrest⟩
      · next heq =>
        refine List.pairwise_cons.2 ⟨fun e he => ?_, ih hrest⟩
        rcases mem_insertSorted he with rfl | he
        · exact Decidable.byContradiction fun hn =>
            heq (String.le_antisymm (String.not_lt.1 hn) (String.not_lt.1 hlt))
        · exact hx e he

/-- What a key looks up after an insertion. -/
theorem lookupEntry_insertSorted {α : Type} (key other : String) (value : α)
    (entries : List (String × α)) :
    lookupEntry other (insertSorted key value entries) =
      if other = key then some value else lookupEntry other entries := by
  induction entries with
  | nil => simp [insertSorted, lookupEntry]
  | cons x rest ih =>
    rw [insertSorted]
    split
    · simp only [lookupEntry]
    · split
      · next heq =>
        simp only [lookupEntry]
        split
        · rfl
        · next hne => rw [if_neg (heq ▸ hne)]
      · next hne =>
        simp only [lookupEntry, ih]
        split
        · next h =>
          rw [if_neg]
          exact fun h' => hne (h'.symm.trans h)
        · rfl

/-- A key that a list of entries does not mention has no value. -/
theorem lookupEntry_eq_none {α : Type} {key : String} {entries : List (String × α)}
    (h : ∀ e ∈ entries, key ≠ e.1) : lookupEntry key entries = none := by
  induction entries with
  | nil => rfl
  | cons x rest ih =>
    rw [lookupEntry, if_neg (h x List.mem_cons_self)]
    exact ih fun e he => h e (List.mem_cons_of_mem x he)

/-- Lists in ascending order with the same look-ups are the same. -/
theorem KeysAscend.eq_of_lookupEntry {α : Type} {as bs : List (String × α)}
    (ha : KeysAscend as) (hb : KeysAscend bs)
    (h : ∀ key, lookupEntry key as = lookupEntry key bs) : as = bs := by
  induction as generalizing bs with
  | nil =>
    cases bs with
    | nil => rfl
    | cons b bs => simpa [lookupEntry] using h b.1
  | cons a as ih =>
    cases bs with
    | nil => simpa [lookupEntry] using h a.1
    | cons b bs =>
      have ⟨hax, has⟩ := List.pairwise_cons.1 ha
      have ⟨hbx, hbs⟩ := List.pairwise_cons.1 hb
      have below {x y : String × α} {ys : List (String × α)} (hys : ∀ e ∈ ys, y.1 < e.1)
          (hlt : x.1 < y.1) : lookupEntry x.1 (y :: ys) = none := by
        refine lookupEntry_eq_none fun e he heq => ?_
        rcases List.mem_cons.1 he with rfl | he
        · exact String.lt_irrefl _ (heq ▸ hlt)
        · exact String.lt_irrefl _ (heq ▸ String.lt_trans hlt (hys e he))
      have hkey : a.1 = b.1 := by
        refine String.le_antisymm (String.not_lt.1 fun hlt => ?_) (String.not_lt.1 fun hlt => ?_)
        · have := h b.1
          rw [below hax hlt] at this
          simp [lookupEntry] at this
        · have := h a.1
          rw [below hbx hlt] at this
          simp [lookupEntry] at this
      have hvalue : a.2 = b.2 := by
        have := h a.1
        simpa [lookupEntry, hkey] using this
      have hab : a = b := Prod.ext hkey hvalue
      subst hab
      refine congrArg (a :: ·) (ih has hbs fun key => ?_)
      by_cases hk : key = a.1
      · subst hk
        rw [lookupEntry_eq_none fun e he heq => String.lt_irrefl _ (heq ▸ hax e he),
          lookupEntry_eq_none fun e he heq => String.lt_irrefl _ (heq ▸ hbx e he)]
      · simpa [lookupEntry, hk] using h key

/-- A finite map from texts to values. -/
structure Bag (α : Type) where
  entries : List (String × α)
  ascending : KeysAscend entries

namespace Bag

variable {α β : Type}

/-- The bag without entries. -/
def empty : Bag α := ⟨[], List.Pairwise.nil⟩

instance : Inhabited (Bag α) := ⟨empty⟩

instance [DecidableEq α] : DecidableEq (Bag α) := fun a b =>
  decidable_of_iff (a.entries = b.entries) ⟨fun h => by cases a; cases b; cases h; rfl, congrArg _⟩

/-- The value under a key. -/
def get? (bag : Bag α) (key : String) : Option α :=
  lookupEntry key bag.entries

/-- Whether a key has a value. -/
def contains (bag : Bag α) (key : String) : Bool :=
  (bag.get? key).isSome

/-- The keys in ascending order. -/
def keys (bag : Bag α) : List String :=
  bag.entries.map Prod.fst

/-- The number of entries. -/
def size (bag : Bag α) : Nat :=
  bag.entries.length

/-- Puts a value under a key, in the place of what was there. -/
def insert (bag : Bag α) (key : String) (value : α) : Bag α :=
  ⟨insertSorted key value bag.entries, bag.ascending.insertSorted key value⟩

/-- The entries put one after another into a bag; the last entry of a key
stays. -/
def insertAll (bag : Bag α) (entries : List (String × α)) : Bag α :=
  entries.foldl (fun b e => b.insert e.1 e.2) bag

/-- The bag of some entries; the last entry of a key stays. -/
def ofList (entries : List (String × α)) : Bag α :=
  empty.insertAll entries

/-- The bag with one entry. -/
def single (key : String) (value : α) : Bag α :=
  empty.insert key value

/-- The entries that `keep` accepts. -/
def filter (bag : Bag α) (keep : String → α → Bool) : Bag α :=
  ⟨bag.entries.filter fun e => keep e.1 e.2, bag.ascending.filter _⟩

/-- The bag with every value replaced by an image of it. -/
def map (bag : Bag α) (f : α → β) : Bag β :=
  ⟨bag.entries.map fun e => (e.1, f e.2), by
    simpa only [KeysAscend, List.pairwise_map] using bag.ascending⟩

/-- What a key looks up after an insertion. -/
@[simp] theorem get?_insert (bag : Bag α) (key other : String) (value : α) :
    (bag.insert key value).get? other = if other = key then some value else bag.get? other :=
  lookupEntry_insertSorted key other value bag.entries

@[simp] theorem get?_empty (key : String) : (empty : Bag α).get? key = none := rfl

/-- **Look-ups determine the bag.** -/
theorem ext_get? {a b : Bag α} (h : ∀ key, a.get? key = b.get? key) : a = b := by
  cases a with
  | mk as ha =>
    cases b with
    | mk bs hb => cases ha.eq_of_lookupEntry hb h; rfl

end Bag

end EntityGraph
