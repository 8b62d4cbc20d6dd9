import EntityGraph.Proofs.Statement.Parameters
/-!
# Pages and the number of matches

The statements for a page, for the number of all matches and for a free-text
search speak of the same entities (`search_count_agree`). A page and the number
start with one selection and bind one set of parameters, so the number counts
what the pages show; and because nothing that orders or limits a page is part of
the selection, the number is the same on every page. A free-text search is a
search of its own only where linked nodes are gathered: without relationship
fields it gives the statement of a page, whose position is a product of two
32-bit words and never overflows (`toNat_skip`).
-/

namespace EntityGraph

/-- **The number of entities before a page** is the product that it should be,
whatever page and page size are; a page zero is the first one. -/
theorem SearchRequest.toNat_skip (r : SearchRequest) :
    r.skip.toNat = (r.page.toNat - 1) * r.pageSize.toNat := by
  have hpage : ((max r.page 1) - 1).toNat = r.page.toNat - 1 := by
    have hone : (1 : UInt32).toNat = 1 := rfl
    by_cases hle : r.page ≤ 1
    · have hmax : max r.page 1 = 1 := if_pos hle
      have hpage : r.page.toNat ≤ 1 := UInt32.le_iff_toNat_le.1 hle
      rw [hmax, UInt32.toNat_sub_of_le _ _ (UInt32.le_refl 1)]
      omega
    · have hmax : max r.page 1 = r.page := if_neg hle
      have hpage : 1 ≤ r.page := (UInt32.le_total r.page 1).resolve_left hle
      rw [hmax, UInt32.toNat_sub_of_le _ _ hpage, hone]
  have hbound : (r.page.toNat - 1) * r.pageSize.toNat < 2 ^ 64 := by
    have hfirst : r.page.toNat - 1 < 2 ^ 32 := by have := r.page.toNat_lt; omega
    have hsecond : r.pageSize.toNat < 2 ^ 32 := r.pageSize.toNat_lt
    calc (r.page.toNat - 1) * r.pageSize.toNat < 2 ^ 32 * 2 ^ 32 :=
          Nat.mul_lt_mul'' hfirst hsecond
      _ = 2 ^ 64 := rfl
  rw [skip, UInt64.toNat_mul, UInt32.toNat_toUInt64, UInt32.toNat_toUInt64, hpage,
    Nat.mod_eq_of_lt hbound]

namespace Statement

open Text (unlines)

/-- The lines that select the entities of a request: the node of the label, the
nodes linked to it that filters speak of, and one line of conditions. -/
def IsSelection (s : Schema) (r : SearchRequest) (lines : List String) : Prop :=
  ∃ text clauses, textClause s r = .ok text ∧ r.activeFilters.mapM filterClause = .ok clauses ∧
    lines = ("MATCH (n:" ++ s.label ++ ")") :: (clauses.filterMap (·.matching) ++
      whereLines (guards r ++ text.toList.map Prod.fst ++ clauses.map (·.condition)))

theorem isSelection_of_matching {s : Schema} {r : SearchRequest} {m : Matching}
    (h : matching s r = .ok m) : IsSelection s r m.lines := by
  obtain ⟨text, clauses, label, htext, hclauses, hlabel, hlines, -⟩ := matching_eq_ok h
  have hnode : "MATCH " ++ (labelled label).text = "MATCH (n:" ++ s.label ++ ")" := by
    rw [← Identifier.text_of_ofText hlabel]
    simp [labelled, NodePattern.text, ← String.append_assoc]
  exact ⟨text, clauses, htext, hclauses, hnode ▸ hlines⟩

/-- What counts the matches of a request after they are selected. -/
theorem count_of_matching {s : Schema} {r : SearchRequest} {m : Matching}
    (h : matching s r = .ok m) : count s r =
      .ok ⟨unlines (m.lines ++ ["RETURN count(DISTINCT n) AS total_count"]), m.parameters⟩ := by
  rw [count, h]
  rfl

/-- One line that returns the entities, or more than one line. -/
theorem projection_ne_count {s : Schema} {projected : List String}
    (h : projection s true = .ok projected) (tail : List String) : ∃ first more, projected ++ tail = first :: more ∧
      (unlines (first :: more)).toList ≠ "RETURN count(DISTINCT n) AS total_count".toList := by
  have hlines (first next : String) (more : List String) :
      (unlines (first :: next :: more)).toList ≠
        "RETURN count(DISTINCT n) AS total_count".toList := by
    intro heq
    have hmem : '\n' ∈ (unlines (first :: next :: more)).toList := by simp
    rw [heq] at hmem
    revert hmem
    decide
  obtain ⟨-, rfl⟩ | ⟨clauses, -, rfl⟩ := projection_cases h
  · cases tail with
    | nil => exact ⟨_, [], rfl, by decide⟩
    | cons next more => exact ⟨_, _, rfl, hlines _ next more⟩
  · cases clauses with
    | nil => exact ⟨_, _, rfl, hlines _ _ tail⟩
    | cons clause clauses =>
      cases clauses with
      | nil => exact ⟨_, _, rfl, hlines _ _ _⟩
      | cons next more => exact ⟨_, _, rfl, hlines _ _ _⟩

/-- A page and the number of matches are two statements. -/
theorem search_ne_count {s : Schema} {r : SearchRequest} {page number : Statement}
    (hpage : search s r = .ok page) (hnumber : count s r = .ok number) : page ≠ number := by
  obtain ⟨m, projected, ordered, hm, hprojected, -, rfl⟩ := results_eq_ok hpage
  obtain rfl := Except.ok.inj ((count_of_matching hm).symm.trans hnumber)
  intro hsame
  have htext := congrArg (fun st : Statement => st.text.toList) hsame
  obtain ⟨first, more, hlines, hne⟩ :=
    projection_ne_count hprojected (pageLines ordered r.skip r.pageSize.toUInt64)
  simp only [hlines, Cypher.toList_unlines_append, List.append_cancel_left_eq] at htext
  exact hne htext

/-- Page and order are no part of what selects entities. -/
theorem matching_paged (s : Schema) (r : SearchRequest) (page pageSize : UInt32)
    (orderBy : Option String) (descending : Bool) :
    matching s { r with page, pageSize, orderBy, descending } = matching s r := rfl

/-- Without relationship fields nothing is gathered. -/
theorem projection_of_unlinked {s : Schema} (h : s.relationships = []) (withLinks : Bool) :
    projection s withLinks = .ok ["RETURN DISTINCT n"] := by
  simp [projection, Schema.hasRelationships, h]

/-- A free-text search without linked nodes is the page of a search. -/
theorem textSearch_of_unlinked {s : Schema} (h : s.relationships = []) (term : String)
    (page pageSize : UInt32) :
    textSearch s term (some (SearchRequest.skip { text := some term, page, pageSize }))
      (some pageSize.toUInt64) = search s { text := some term, page, pageSize } := by
  rw [textSearch, search, results, results, projection_of_unlinked h, projection_of_unlinked h]
  rfl

/-- **Pages, their number and free text speak of the same entities.** What
selects the entities of a page selects what is counted, under the same
parameters; no page and no order changes the number; and a free-text search of
entities without relationship fields is the page of a search. -/
theorem search_count_agree (s : Schema) :
    (∀ r st, search s r = .ok st → ∃ selection projected ordered,
      IsSelection s r selection ∧ projection s true = .ok projected ∧
      orderLines r = .ok ordered ∧
      st.text = unlines (selection ++ (projected ++
        (ordered ++ (numberLine "SKIP" r.skip ++ numberLine "LIMIT" r.pageSize.toUInt64)))) ∧
      count s r = .ok ⟨unlines (selection ++ ["RETURN count(DISTINCT n) AS total_count"]),
        st.parameters⟩) ∧
    (∀ (r : SearchRequest) page pageSize orderBy descending,
      count s { r with page, pageSize, orderBy, descending } = count s r) ∧
    (s.relationships = [] → ∀ term page pageSize, ∃ skip : UInt64,
      skip.toNat = (page.toNat - 1) * pageSize.toNat ∧
      textSearch s term (some skip) (some pageSize.toUInt64) =
        search s { text := some term, page, pageSize }) := by
  refine ⟨?_, ?_, ?_⟩
  · intro r st h
    obtain ⟨m, projected, ordered, hm, hprojected, hordered, rfl⟩ := results_eq_ok h
    exact ⟨m.lines, projected, ordered, isSelection_of_matching hm, hprojected, hordered, rfl,
      count_of_matching hm⟩
  · intro r page pageSize orderBy descending
    rw [count, count, matching_paged]
  · intro hunlinked term page pageSize
    exact ⟨_, SearchRequest.toNat_skip _, textSearch_of_unlinked hunlinked term page pageSize⟩

/-- Tags, which are linked to nothing. -/
def tagSchema : Schema :=
  .ofFields "Tag" [.scalar "title" .string]

theorem search_count_agree_tags :
    ∃ st, search tagSchema { text := some "Lean", page := 3 } = .ok st ∧
      (∃ selection rest, IsSelection tagSchema { text := some "Lean", page := 3 } selection ∧
        st.text = unlines (selection ++ rest) ∧
        count tagSchema { text := some "Lean" } =
          .ok ⟨unlines (selection ++ ["RETURN count(DISTINCT n) AS total_count"]),
            st.parameters⟩) ∧
      ∃ skip : UInt64, skip.toNat = 50 ∧
        textSearch tagSchema "Lean" (some skip) (some 25) = .ok st := by
  obtain ⟨hpage, hcount, htext⟩ := search_count_agree tagSchema
  have hok : (search tagSchema { text := some "Lean", page := 3 }).toOption.isSome = true := by
    decide
  obtain ⟨st, hst⟩ := exists_ok_of_isSome hok
  obtain ⟨selection, projected, ordered, hselection, -, -, hlines, htotal⟩ := hpage _ st hst
  obtain ⟨skip, hskip, heq⟩ := htext (by decide) "Lean" 3 25
  have hfirst := hcount { text := some "Lean", page := 3 } 1 25 (some "created_at") true
  exact ⟨st, hst, ⟨selection, _, hselection, hlines, hfirst.trans htotal⟩, skip, hskip,
    heq.trans hst⟩

end Statement

end EntityGraph
