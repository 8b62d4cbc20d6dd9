import EntityGraph.Proofs.Bolt.Row
import EntityGraph.Proofs.Statement.SingleColumns
/-!
# Columns of their own

A row is keyed by its columns, so what two relationship fields gather must stand
under two names, and neither under the name of the node. The suffix for
collections keeps the fields that have it apart from each other and from the
node. A single linked node has a bare name, which may be the node's own or end
in the suffix: the columns of a search are distinct exactly when it does neither
(`nodup_searchColumns_iff`).
-/

namespace EntityGraph.Statement

open Cypher
open Text (unlines)

/-- The columns of the relationship fields of a schema, as a search returns
them. -/
def linkColumns (s : Schema) : List String :=
  (linkedFields s).map fun p => linkColumn p.1 p.2

/-- The columns that a search returns. -/
def searchColumns (s : Schema) : List String :=
  "n" :: linkColumns s

/-- No single linked node has the name of the entity's node, or the column of a
field that is gathered. -/
def HasOwnColumns (s : Schema) : Prop :=
  ∀ p ∈ linkedFields s, p.2.cardinality = .single → p.1.lowerName ≠ "n" ∧
    ∀ q ∈ linkedFields s, q.2.cardinality ≠ .single → p.1.lowerName ≠ q.1.collectionAlias

instance (s : Schema) : Decidable (HasOwnColumns s) :=
  inferInstanceAs (Decidable (∀ p ∈ linkedFields s, _))

/-- **The last line of a search that returns** is the one of its columns. -/
theorem exists_returning {s : Schema} {r : SearchRequest} {st : Statement}
    (h : search s r = .ok st) : ∃ before after,
      st.text = unlines (before ++ returning (linkColumns s) :: after) ∧
      ∀ line ∈ after, IsTailLine line.toList := by
  obtain ⟨m, projected, ordered, -, hprojected, hordered, rfl⟩ := results_eq_ok h
  have htail := isTailLine_pageLines hordered r.skip r.pageSize.toUInt64
  rcases projection_cases hprojected with ⟨hnone, rfl⟩ | ⟨clauses, hclauses, rfl⟩
  · refine ⟨m.lines, _, ?_, htail⟩
    rw [linkColumns, hnone]
    rfl
  · refine ⟨m.lines ++ (clauses.map (·.matching) ++ [gathering clauses]), _, ?_, htail⟩
    rw [linkedProjection_eq, columns_linkClauses hclauses, linkColumns]
    simp

/-! ### Which columns meet -/

theorem collectionAlias_inj {f g : Field} :
    f.collectionAlias = g.collectionAlias ↔ f.lowerName = g.lowerName := by
  rw [Field.collectionAlias, Field.collectionAlias, ← String.toList_inj, String.toList_append,
    String.toList_append, List.append_left_inj, String.toList_inj]

theorem collectionAlias_ne_n (f : Field) : f.collectionAlias ≠ "n" := by
  intro h
  have hlength := congrArg String.length h
  rw [length_collectionAlias] at hlength
  have : "n".length = 1 := by decide
  omega

section Columns

variable {s : Schema} (hnames : (s.relationships.map (·.lowerName)).Nodup)

include hnames

/-- Fields are told apart by their names in small letters. -/
theorem linkedFields_inj {p q : Field × Link} (hp : p ∈ linkedFields s) (hq : q ∈ linkedFields s)
    (h : p.1.lowerName = q.1.lowerName) : p = q := by
  obtain ⟨f, hf, hlink⟩ := List.mem_filterMap.1 hp
  obtain ⟨g, hg, hlink'⟩ := List.mem_filterMap.1 hq
  obtain ⟨l, hl, rfl⟩ := Option.map_eq_some_iff.1 hlink
  obtain ⟨l', hl', rfl⟩ := Option.map_eq_some_iff.1 hlink'
  obtain rfl : f = g := List.inj_on_of_nodup_map hnames hf hg h
  obtain rfl : l = l' := Option.some.inj (hl.symm.trans hl')
  rfl

theorem nodup_linkedFields : (linkedFields s).Nodup := by
  refine List.Nodup.filterMap (fun f g p hf hg => ?_) (List.Nodup.of_map _ hnames)
  obtain ⟨l, -, rfl⟩ := Option.map_eq_some_iff.1 hf
  obtain ⟨l', -, hpair⟩ := Option.map_eq_some_iff.1 hg
  exact (congrArg Prod.fst hpair).symm

/-- The names tell single linked nodes apart, and the suffix after them what is
gathered. Only a name that ends in the suffix can meet a column that has it. -/
theorem nodup_linkColumns_iff : (linkColumns s).Nodup ↔
    ∀ p ∈ linkedFields s, p.2.cardinality = .single → ∀ q ∈ linkedFields s,
      q.2.cardinality ≠ .single → p.1.lowerName ≠ q.1.collectionAlias := by
  rw [linkColumns, List.nodup_map_iff_inj_on (nodup_linkedFields hnames)]
  constructor
  · intro hinj p hp hsingle q hq hgathered hmeet
    have hsame : linkColumn p.1 p.2 = linkColumn q.1 q.2 := by
      rwa [linkColumn, if_pos hsingle, linkColumn, if_neg hgathered]
    obtain rfl : p = q := hinj p hp q hq hsame
    exact hgathered hsingle
  · intro hapart p hp q hq hsame
    unfold linkColumn at hsame
    split at hsame <;> split at hsame
    · exact linkedFields_inj hnames hp hq hsame
    · next hsingle hgathered => exact absurd hsame (hapart p hp hsingle q hq hgathered)
    · next hgathered hsingle => exact absurd hsame.symm (hapart q hq hsingle p hp hgathered)
    · exact linkedFields_inj hnames hp hq (collectionAlias_inj.1 hsame)

/-- The columns are distinct exactly when every field has one of its own. -/
theorem nodup_searchColumns_iff_hasOwnColumns : (searchColumns s).Nodup ↔ HasOwnColumns s := by
  have hnode : "n" ∉ linkColumns s ↔
      ∀ p ∈ linkedFields s, p.2.cardinality = .single → p.1.lowerName ≠ "n" := by
    rw [linkColumns, List.mem_map, not_exists]
    refine forall_congr' fun p => ?_
    rw [not_and]
    refine forall_congr' fun _ => ?_
    unfold linkColumn
    split
    · next hsingle => simp [hsingle]
    · next hgathered => simp [hgathered, collectionAlias_ne_n]
  rw [searchColumns, List.nodup_cons, hnode, nodup_linkColumns_iff hnames]
  constructor
  · rintro ⟨hnode, hapart⟩ p hp hsingle
    exact ⟨hnode p hp hsingle, hapart p hp hsingle⟩
  · intro hown
    exact ⟨fun p hp hsingle => (hown p hp hsingle).1, fun p hp hsingle => (hown p hp hsingle).2⟩

end Columns

/-- **The columns that a search returns are distinct,** so that a row keeps what
stands under each, exactly when no single linked node has the name of the
entity's node or the column of a field that is gathered. -/
theorem nodup_searchColumns_iff {s : Schema} {r : SearchRequest} {st : Statement}
    (h : search s r = .ok st) (hnames : (s.relationships.map (·.lowerName)).Nodup) :
    (∃ before after, st.text = unlines (before ++ returning (linkColumns s) :: after) ∧
      ∀ line ∈ after, IsTailLine line.toList) ∧
    ((searchColumns s).Nodup ↔ HasOwnColumns s) ∧
    (Bolt.KeepsColumns (searchColumns s) ↔ HasOwnColumns s) :=
  ⟨exists_returning h, nodup_searchColumns_iff_hasOwnColumns hnames,
    Bolt.keepsColumns_iff_nodup.trans (nodup_searchColumns_iff_hasOwnColumns hnames)⟩

/-- A schema with fields of every cardinality, whose names nearly meet. -/
def crowdedSchema : Schema :=
  .ofFields "Movie" [.scalar "title" .string, .relationship "N" ["NEXT"],
    (Field.relationship "cast_collections" ["LEADS"]).withCardinality .single,
    .relationship "cast" ["ACTED", "SANG"],
    (Field.relationship "n_Collection_" ["IN"]).withCardinality .single,
    (Field.relationship "cast_collection" ["LEADS"]).countOnly]

theorem nodup_searchColumns_crowdedSchema : ∃ st, search crowdedSchema {} = .ok st ∧
    (crowdedSchema.relationships.map (·.lowerName)).Nodup ∧
    searchColumns crowdedSchema = ["n", "n_collection", "cast_collections", "cast_collection",
      "n_collection_", "cast_collection_collection"] ∧
    (searchColumns crowdedSchema).Nodup ∧ Bolt.KeepsColumns (searchColumns crowdedSchema) := by
  have hok : (search crowdedSchema {}).toOption.isSome = true := by decide
  have hnames : (crowdedSchema.relationships.map (·.lowerName)).Nodup := by decide
  have hown : HasOwnColumns crowdedSchema := by decide
  obtain ⟨st, hst⟩ := exists_ok_of_isSome hok
  obtain ⟨-, hnodup, hkeeps⟩ := nodup_searchColumns_iff hst hnames
  exact ⟨st, hst, hnames, by decide, hnodup.2 hown, hkeeps.2 hown⟩

/-- A single linked node of the name `n` is returned under the column of the
entity's node, and one of the two is lost. -/
theorem not_nodup_searchColumns_n : ∃ st, search (singleSchema "N") {} = .ok st ∧
    ((singleSchema "N").relationships.map (·.lowerName)).Nodup ∧
    searchColumns (singleSchema "N") = ["n", "n"] ∧ returnColumns st.text = .ok ["n", "n"] ∧
    ¬ (searchColumns (singleSchema "N")).Nodup ∧
    ¬ Bolt.KeepsColumns (searchColumns (singleSchema "N")) := by
  have hok : (search (singleSchema "N") {}).toOption.isSome = true := by decide
  have hplain : ∀ p ∈ linkedFields (singleSchema "N"), linkColumn p.1 p.2 ∉ stopWords := by decide
  have htwice : ¬ (searchColumns (singleSchema "N")).Nodup := by decide
  obtain ⟨st, hst⟩ := exists_ok_of_isSome hok
  exact ⟨st, hst, by decide, by decide, returnColumns_search_of_not_stop hst hplain, htwice,
    fun hkeeps => htwice (Bolt.keepsColumns_iff_nodup.1 hkeeps)⟩

end EntityGraph.Statement
