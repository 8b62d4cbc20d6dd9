import EntityGraph.Bolt.Client
import EntityGraph.Proofs.Bag
import Mathlib.Data.List.Nodup
/-!
# Rows of the database

A row holds, under each column that its statement names, the JSON form of what
the server sent under that name (`get?_decodeRow`). It is keyed by the names, so
every value has a place of its own exactly when no name stands twice
(`keepsColumns_iff_nodup`).
-/

namespace EntityGraph.Bolt

variable {columns fields : List String} {values : List Value} {column : String}

/-- What the server sent under a name, the last if it sent several values. -/
def sent? (fields : List String) (values : List Value) (name : String) : Option Value :=
  (Bag.ofList (fields.zip values)).get? name

/-- **A column holds what was sent under its name,** or null. -/
theorem get?_decodeRowBy (given : Value → Option Json) (h : column ∈ columns) :
    (decodeRowBy given columns fields values).columns.get? column =
      some (((sent? fields values column).map (Value.columnBy given)).getD .null) := by
  -- Entries of one name agree, since the name alone decides the value.
  refine Bag.forall_get?_ofList_iff _ |>.2 ?_ _ (List.mem_map_of_mem h)
  rintro _ hd _ he hname
  obtain ⟨c, -, rfl⟩ := List.mem_map.1 hd
  obtain ⟨d, -, rfl⟩ := List.mem_map.1 he
  obtain rfl : c = d := hname
  rfl

theorem get?_decodeRow (h : column ∈ columns) :
    (decodeRow columns fields values).columns.get? column =
      some (((sent? fields values column).map Value.column).getD .null) :=
  get?_decodeRowBy Value.given? h

/-- A row of some columns keeps the value of each of them. -/
def KeepsColumns (columns : List String) : Prop :=
  ∀ values : List Value, values.length = columns.length → ∀ e ∈ columns.zip values,
    (decodeRow columns columns values).columns.get? e.1 = some e.2.column

/-- **Every value is kept exactly when no column stands twice.** -/
theorem keepsColumns_iff_nodup : KeepsColumns columns ↔ columns.Nodup := by
  constructor
  · -- Values that are all different: where two columns are one, one is lost.
    intro hkeeps
    let numbers : List Value := (List.range columns.length).map fun i => .int (Int.ofNat i)
    have hlength : numbers.length = columns.length := by simp [numbers]
    have hget (i : Nat) (hi : i < columns.length) :
        (decodeRow columns columns numbers).columns.get? columns[i] = some (.int i) := by
      have hmem : (columns[i], Value.int i) ∈ columns.zip numbers := by
        refine List.mem_iff_getElem.2 ⟨i, by simp [numbers, hi], ?_⟩
        simp [numbers]
      exact hkeeps numbers hlength _ hmem
    refine List.pairwise_iff_getElem.2 fun i j hi hj hlt hsame => ?_
    have hboth := hget i hi
    rw [hsame, hget j hj] at hboth
    have hnumber : (j : Int) = i := Json.int.inj (Option.some.inj hboth)
    omega
  · intro hnodup values hlength e he
    have hkeys : ((columns.zip values).map Prod.fst).Nodup := by
      rwa [List.map_fst_zip (by omega)]
    have hsent : sent? columns values e.1 = some e.2 := by
      refine (Bag.forall_get?_ofList_iff _).2 (fun d hd e he hname => ?_) e he
      exact congrArg Prod.snd (List.inj_on_of_nodup_map hkeys hd he hname)
    rw [get?_decodeRow (List.of_mem_zip he).1, hsent]
    rfl

end EntityGraph.Bolt
