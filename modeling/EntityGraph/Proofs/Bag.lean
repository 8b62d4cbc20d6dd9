import EntityGraph.Bag
/-!
# Bags put together

What a key looks up after entries were put into a bag one after another
(`get?_insertAll`): the value of the last of them that has the key, or else
what was there. So entries can all be kept only if those of one key agree
(`forall_get?_ofList_iff`). The entries of a bag are themselves looked up as the bag is, so
a bag laid over another hides what the other has under its keys and nothing
else (`get?_insertAll_entries`). The keys of a bag are those that look something
up (`mem_keys_iff`).
-/

namespace EntityGraph

variable {α : Type}

/-- The value of the last entry of a key. -/
def lastValue? (key : String) (entries : List (String × α)) : Option α :=
  ((entries.filter (·.1 == key)).getLast?).map Prod.snd

theorem lastValue?_cons (key : String) (e : String × α) (entries : List (String × α)) :
    lastValue? key (e :: entries) =
      (lastValue? key entries).or (if key = e.1 then some e.2 else none) := by
  by_cases hkey : key = e.1
  · subst hkey
    rw [lastValue?, List.filter_cons_of_pos (by simp), List.getLast?_cons, if_pos rfl, lastValue?]
    cases (entries.filter (·.1 == e.1)).getLast? <;> rfl
  · rw [lastValue?, List.filter_cons_of_neg (by simpa using Ne.symm hkey), if_neg hkey,
      Option.or_none, lastValue?]

theorem lastValue?_concat (entries : List (String × α)) (key : String) (value : α) :
    lastValue? key (entries ++ [(key, value)]) = some value := by
  simp [lastValue?]

/-- Values changed one by one are changed where they are looked up. -/
theorem lastValue?_map {β : Type} (f : α → β) (entries : List (String × α)) (key : String) :
    lastValue? key (entries.map fun (name, value) => (name, f value)) =
      (lastValue? key entries).map f := by
  induction entries with
  | nil => rfl
  | cons e entries ih =>
    obtain ⟨name, value⟩ := e
    rw [List.map_cons, lastValue?_cons, lastValue?_cons, ih, Option.map_or, apply_ite (Option.map f)]
    rfl

/-- When a key has an entry, the last one of the key is an entry too. -/
theorem exists_lastValue? {key : String} {entries : List (String × α)} {e : String × α}
    (he : e ∈ entries) (hkey : e.1 = key) :
    ∃ d ∈ entries, d.1 = key ∧ lastValue? key entries = some d.2 := by
  have hne : entries.filter (·.1 == key) ≠ [] :=
    List.ne_nil_of_mem (List.mem_filter.2 ⟨he, beq_of_eq hkey⟩)
  obtain ⟨hmem, hlast⟩ := List.mem_filter.1 (List.getLast_mem hne)
  exact ⟨_, hmem, eq_of_beq hlast, by rw [lastValue?, List.getLast?_eq_some_getLast hne]; rfl⟩

theorem mem_of_lastValue? {key : String} {value : α} {entries : List (String × α)}
    (h : lastValue? key entries = some value) : (key, value) ∈ entries := by
  obtain ⟨e, he, rfl⟩ := Option.map_eq_some_iff.1 h
  obtain ⟨hmem, hkey⟩ := List.mem_filter.1 (List.mem_of_getLast? he)
  rwa [← eq_of_beq hkey]

/-- In ascending order a key has no entry after its first. -/
theorem KeysAscend.lookupEntry_tail {e : String × α} {entries : List (String × α)}
    (h : KeysAscend (e :: entries)) : lookupEntry e.1 entries = none := by
  refine lookupEntry_eq_none fun d hd hsame => ?_
  have hbelow : e.1 < d.1 := (List.pairwise_cons.1 h).1 d hd
  exact String.lt_irrefl _ (hsame ▸ hbelow)

theorem KeysAscend.lastValue?_eq {entries : List (String × α)} (h : KeysAscend entries)
    (key : String) : lastValue? key entries = lookupEntry key entries := by
  induction entries with
  | nil => rfl
  | cons e entries ih =>
    rw [lastValue?_cons, ih (List.pairwise_cons.1 h).2, lookupEntry]
    by_cases hkey : key = e.1
    · rw [hkey, h.lookupEntry_tail, if_pos rfl, Option.none_or]
    · rw [if_neg hkey, if_neg hkey, Option.or_none]

/-- A key without an entry has no last one. -/
theorem lastValue?_eq_none_iff {key : String} {entries : List (String × α)} :
    lastValue? key entries = none ↔ key ∉ entries.map Prod.fst := by
  rw [lastValue?, Option.map_eq_none_iff, List.getLast?_eq_none_iff, List.filter_eq_nil_iff]
  constructor
  · intro h hmem
    obtain ⟨e, he, hkey⟩ := List.mem_map.1 hmem
    exact h e he (beq_of_eq hkey)
  · intro h e he hsame
    exact h (List.mem_map.2 ⟨e, he, eq_of_beq hsame⟩)

theorem KeysAscend.lookupEntry_filter {entries : List (String × α)} (h : KeysAscend entries)
    (keep : String → α → Bool) (key : String) :
    lookupEntry key (entries.filter fun e => keep e.1 e.2) =
      (lookupEntry key entries).filter (keep key) := by
  induction entries with
  | nil => rfl
  | cons e entries ih =>
    have hrest := ih (List.pairwise_cons.1 h).2
    by_cases hkey : key = e.1
    · -- An entry that is dropped was the only one of its key.
      subst hkey
      rw [h.lookupEntry_tail] at hrest
      by_cases hkeep : keep e.1 e.2 = true
      · simp [lookupEntry, hkeep, Option.filter]
      · simp [lookupEntry, hkeep, hrest, Option.filter]
    · by_cases hkeep : keep e.1 e.2 = true <;> simp [lookupEntry, hkey, hkeep, hrest]

namespace Bag

/-- **What a key looks up after entries were put into a bag:** the last of them
that has the key, or else what was there. -/
theorem get?_insertAll (bag : Bag α) (entries : List (String × α)) (key : String) :
    (bag.insertAll entries).get? key = (lastValue? key entries).or (bag.get? key) := by
  induction entries generalizing bag with
  | nil => rfl
  | cons e entries ih =>
    have hrest : (bag.insertAll (e :: entries)).get? key =
        (lastValue? key entries).or ((bag.insert e.1 e.2).get? key) := ih (bag.insert e.1 e.2)
    rw [hrest, get?_insert, lastValue?_cons, Option.or_assoc]
    by_cases hkey : key = e.1 <;> simp [hkey]

theorem get?_ofList (entries : List (String × α)) (key : String) :
    (ofList entries).get? key = lastValue? key entries := by
  rw [ofList, get?_insertAll, get?_empty, Option.or_none]

/-- **All of some entries are kept in one bag** exactly when no two of them want
different values under one key. -/
theorem forall_get?_ofList_iff (entries : List (String × α)) :
    (∀ e ∈ entries, (ofList entries).get? e.1 = some e.2) ↔
      ∀ d ∈ entries, ∀ e ∈ entries, d.1 = e.1 → d.2 = e.2 := by
  constructor
  · intro h d hd e he hkey
    exact Option.some.inj ((h d hd).symm.trans (hkey ▸ h e he))
  · intro h e he
    obtain ⟨d, hd, hkey, hlast⟩ := exists_lastValue? he rfl
    rw [get?_ofList, hlast, h d hd e he hkey]

/-- The entries of a bag make up the bag. -/
theorem ofList_entries (bag : Bag α) : ofList bag.entries = bag :=
  ext_get? fun key => by
    rw [get?_ofList, bag.ascending.lastValue?_eq]
    rfl

/-- A bag laid over another. -/
theorem get?_insertAll_entries (bag upper : Bag α) (key : String) :
    (bag.insertAll upper.entries).get? key = (upper.get? key).or (bag.get? key) := by
  rw [get?_insertAll, upper.ascending.lastValue?_eq]
  rfl

/-- The keys are those that have a value. -/
theorem mem_keys_iff (bag : Bag α) (key : String) : key ∈ bag.keys ↔ bag.get? key ≠ none := by
  rw [get?, ← bag.ascending.lastValue?_eq key, Ne, lastValue?_eq_none_iff, Decidable.not_not, keys]

theorem mem_keys_ofList (entries : List (String × α)) (key : String) :
    key ∈ (ofList entries).keys ↔ key ∈ entries.map Prod.fst := by
  rw [mem_keys_iff, get?_ofList, Ne, lastValue?_eq_none_iff, Decidable.not_not]

theorem get?_map {β : Type} (bag : Bag α) (f : α → β) (key : String) :
    (bag.map f).get? key = (bag.get? key).map f := by
  rw [get?, get?, ← (bag.map f).ascending.lastValue?_eq, ← bag.ascending.lastValue?_eq]
  exact lastValue?_map f bag.entries key

theorem keys_map {β : Type} (bag : Bag α) (f : α → β) : (bag.map f).keys = bag.keys := by
  rw [keys, map, List.map_map]
  rfl

/-- No key stands twice. -/
theorem nodup_keys (bag : Bag α) : bag.keys.Nodup := by
  refine List.pairwise_map.2 (bag.ascending.imp fun {a b} hlt hsame => ?_)
  exact String.lt_irrefl _ (hsame ▸ hlt)

theorem get?_filter (bag : Bag α) (keep : String → α → Bool) (key : String) :
    (bag.filter keep).get? key = (bag.get? key).filter (keep key) :=
  bag.ascending.lookupEntry_filter keep key

end Bag

end EntityGraph
