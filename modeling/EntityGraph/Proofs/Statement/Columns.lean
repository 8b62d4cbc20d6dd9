import EntityGraph.Proofs.Statement.Call
import EntityGraph.Proofs.Statement.EdgeColumns
import EntityGraph.Proofs.Statement.NodeColumns
import EntityGraph.Proofs.Statement.SearchColumns
/-!
# The columns of all statements

Whatever call makes a statement, reading the columns off its text gives the
columns that the rows are read by (`returnColumns_call`).
-/

namespace EntityGraph.Statement

open Cypher

/-- **The columns read off a statement are those its rows are read by,**
whatever call made it. -/
theorem returnColumns_call {c : Call} {st : Statement} (h : c.statement = .ok st)
    (hgathering : c.IsGathering) : returnColumns st.text = .ok c.columns := by
  cases c with
  | createNode label properties => exact returnColumns_createNode h
  | findById label id => exact returnColumns_findById h
  | findByField label storedName value => exact returnColumns_findByField h
  | updateNode label id properties => exact returnColumns_updateNode h
  | softDelete label id => exact returnColumns_softDelete h
  | detachDelete label id => exact returnColumns_detachDelete h
  | mergeEdge sourceId type targetId direction => exact returnColumns_mergeEdge h
  | syncEdges sourceId type targetIds direction => exact returnColumns_syncEdges h
  | linkedNodes sourceLabel id type direction targetLabel => exact returnColumns_linkedNodes h
  | edgesOf sourceLabel id type direction => exact returnColumns_edgesOf h
  | count s r => exact returnColumns_count h
  | textSearch s term skip limit => exact returnColumns_textSearch h
  | search s r =>
    have hcolumns := columns_of_gathering hgathering
    have hstop : ∀ p ∈ linkedFields s, linkColumn p.1 p.2 ∉ stopWords := by
      intro p hp
      have hmem : linkColumn p.1 p.2 ∈ s.relationships.map (·.collectionAlias) :=
        hcolumns ▸ List.mem_map_of_mem hp
      obtain ⟨field, -, hfield⟩ := List.mem_map.1 hmem
      rw [← hfield]
      exact collectionAlias_not_mem_stopWords field
    have hread := returnColumns_search_of_not_stop h hstop
    rwa [hcolumns] at hread

/-- A search whose label, fields, types, filter and order are all words of the
language. -/
def wordyCall : Call :=
  .search
    { label := "RETURN"
      scalars := [.scalar "union" .string]
      relationships := [.relationship "Limit" ["UNION", "AS"],
        (Field.relationship "return" ["ORDER"]).countOnly] }
    { text := some "x", orderBy := some "limit", filters := [⟨.scalar "skip" .string, .text "x"⟩] }

theorem returnColumns_wordyCall : ∃ st, wordyCall.statement = .ok st ∧ wordyCall.IsGathering ∧
    returnColumns st.text = .ok ["n", "limit_collection", "return_collection"] := by
  have hok : wordyCall.statement.toOption.isSome = true := by decide
  have hgathering : wordyCall.IsGathering := by
    simp [Call.IsGathering, wordyCall, Field.relationship, Field.countOnly, Field.withCardinality,
      Field.mapLink]
  have hcolumns : wordyCall.columns = ["n", "limit_collection", "return_collection"] := by decide
  obtain ⟨st, hst⟩ := exists_ok_of_isSome hok
  exact ⟨st, hst, hgathering, hcolumns ▸ returnColumns_call hst hgathering⟩

end EntityGraph.Statement
