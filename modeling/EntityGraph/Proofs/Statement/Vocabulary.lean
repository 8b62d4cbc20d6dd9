import EntityGraph.Proofs.Statement.Call
import EntityGraph.Proofs.Statement.SafeStatements
/-!
# The vocabulary of a call

Which words may stand in the statement of a call: the fixed words of this sort
of call, the numbers of the page, and the names among its arguments, each as a
whole (`Vocabulary.Explains`). The text of every statement is safe and has no
other words (`isSafe_text`), whatever the arguments are, so no argument can
bring in more than a name.
-/

namespace EntityGraph.Statement

/-- Where the words of a statement come from. -/
structure Vocabulary where
  /-- The words that are the same for every call of its sort. -/
  fixed : List String
  /-- The numbers that limit a page. -/
  numbers : List UInt64 := []
  /-- The names among the arguments. -/
  names : List String

/-- **A word is explained by a vocabulary** as a fixed word, as a number, or as
one whole name, maybe without white space at its ends or in small letters, with
what is put around it. A name is an ASCII letter or underscore and then letters,
digits and underscores. -/
inductive Vocabulary.Explains (v : Vocabulary) : String → Prop
  | fixed {word : String} : word ∈ v.fixed → Explains v word
  | number {n : UInt64} : n ∈ v.numbers → Explains v (toString n.toNat)
  | name {name form start ending : String} : name ∈ v.names →
      form ∈ [name, Text.trim name, Text.lower name] → isName form = true →
      start ∈ ["", "target_", "rel_"] → ending ∈ ["", "_collection"] →
      Explains v (start ++ form ++ ending)

/-- The names that a schema brings into a statement. -/
def Call.schemaNames (s : Schema) : List String :=
  s.label :: s.fields.flatMap Field.names

/-- The names that a request brings into a statement, apart from its order. -/
def Call.requestNames (r : SearchRequest) : List String :=
  r.searchableFields ++ r.filters.flatMap (·.field.names)

/-- **The vocabulary of a call.** -/
def Call.vocabulary : Call → Vocabulary
  | createNode label _ => { fixed := createWords, names := [label] }
  | findById label _ => { fixed := findWords, names := [label] }
  | findByField label storedName _ => { fixed := lookUpWords, names := [label, storedName] }
  | updateNode label _ _ => { fixed := updateWords, names := [label] }
  | softDelete label _ => { fixed := softDeleteWords, names := [label] }
  | detachDelete label _ => { fixed := detachDeleteWords, names := [label] }
  | mergeEdge _ type _ _ => { fixed := mergeWords, names := [type] }
  | syncEdges _ type _ _ => { fixed := syncWords, names := [type] }
  | linkedNodes sourceLabel _ type _ targetLabel =>
    { fixed := linkedNodesWords, names := sourceLabel :: type :: targetLabel.toList }
  | edgesOf sourceLabel _ type _ => { fixed := edgesWords, names := [sourceLabel, type] }
  | search s r =>
    { fixed := resultsWords ++ projectionWords
      numbers := [r.skip, r.pageSize.toUInt64]
      names := schemaNames s ++ requestNames r ++ r.orderBy.toList }
  | count s r => { fixed := countWords, names := schemaNames s ++ requestNames r }
  | textSearch s _ skip limit =>
    { fixed := resultsWords ++ ["RETURN", "DISTINCT", "created_at"]
      numbers := [skip.getD 0, limit.getD 0]
      names := schemaNames s }

namespace Vocabulary

variable {v : Vocabulary}

theorem explains_fixed {fixed : List String} (h : fixed ⊆ v.fixed) : ∀ w ∈ fixed, v.Explains w :=
  fun _ hw => .fixed (h hw)

/-- A name that stands in the statement as it is. -/
theorem explains_name {name : String} (h : name ∈ v.names) (hname : isName name = true) :
    v.Explains name := by
  have hword : v.Explains ("" ++ name ++ "") := .name h (by simp) hname (by simp) (by simp)
  simpa using hword

/-- A name that stands in it without white space at its ends. -/
theorem explains_trim {name : String} (h : name ∈ v.names)
    (hname : isName (Text.trim name) = true) : v.Explains (Text.trim name) := by
  have hword : v.Explains ("" ++ Text.trim name ++ "") :=
    .name h (by simp) hname (by simp) (by simp)
  simpa using hword

theorem allowsField {field : Field} (h : field.names ⊆ v.names) : AllowsField v.Explains field where
  names name hmem hname := explains_name (h hmem) hname
  lowered hname start hstart ending hending := by
    have hmem : field.name ∈ v.names := h (by simp [Field.names])
    exact .name hmem (by simp [Field.lowerName]) hname hstart hending

end Vocabulary

/-! ### Searches -/

section Search

variable {v : Vocabulary} {s : Schema} (hschema : Call.schemaNames s ⊆ v.names)

include hschema

theorem explains_label (hname : isName s.label = true) : v.Explains s.label :=
  Vocabulary.explains_name (hschema (by simp [Call.schemaNames])) hname

theorem allowsField_relationship {field : Field} (hmem : field ∈ s.relationships) :
    AllowsField v.Explains field := by
  refine Vocabulary.allowsField fun name hname => hschema ?_
  have hfield : field ∈ s.fields := List.mem_append_right _ hmem
  exact List.mem_cons_of_mem _ (List.mem_flatMap.2 ⟨field, hfield, hname⟩)

/-- The stored names that free text is looked for in. -/
theorem explains_effectiveFields {r : SearchRequest} (hfields : r.searchableFields ⊆ v.names) :
    ∀ name ∈ r.effectiveFields s, isName name = true → v.Explains name := by
  intro name hmem hname
  refine Vocabulary.explains_name ?_ hname
  unfold SearchRequest.effectiveFields at hmem
  split at hmem
  · obtain ⟨field, hfield, rfl⟩ := List.mem_map.1 hmem
    have hscalar : field ∈ s.scalars := by
      split at hfield
      · exact List.mem_of_mem_filter hfield
      · exact List.mem_of_mem_filter hfield
    refine hschema (List.mem_cons_of_mem _ (List.mem_flatMap.2 ⟨field, ?_, ?_⟩))
    · exact List.mem_append_left _ hscalar
    · simp [Field.names]
  · exact hfields hmem

end Search

theorem allowsField_filters {v : Vocabulary} {r : SearchRequest}
    (hnames : Call.requestNames r ⊆ v.names) : ∀ f ∈ r.filters, AllowsField v.Explains f.field := by
  intro f hf
  refine Vocabulary.allowsField fun name hname => hnames ?_
  exact List.mem_append_right _ (List.mem_flatMap.2 ⟨f, hf, hname⟩)

/-- The name that orders the results, without white space at its ends. -/
theorem explains_order {v : Vocabulary} {r : SearchRequest} (horder : r.orderBy.toList ⊆ v.names) :
    ∀ order ∈ r.soughtOrder, isName order = true → v.Explains order := by
  intro order hsought hname
  obtain ⟨hmap, -⟩ := Option.filter_eq_some_iff.1 hsought
  obtain ⟨name, hname', rfl⟩ := Option.map_eq_some_iff.1 hmap
  exact Vocabulary.explains_trim (horder (by simp [hname'])) hname

/-- The text of a page statement. -/
theorem isSafe_text_search {s : Schema} {r : SearchRequest} {st : Statement}
    (h : search s r = .ok st) : IsSafe (Call.search s r).vocabulary.Explains st.text.toList := by
  have hschema : Call.schemaNames s ⊆ (Call.search s r).vocabulary.names := by
    simp [Call.vocabulary]
  have hrequest : Call.requestNames r ⊆ (Call.search s r).vocabulary.names := by
    simp [Call.vocabulary]
  have hfields : r.searchableFields ⊆ (Call.search s r).vocabulary.names :=
    List.Subset.trans (List.subset_append_left _ _) hrequest
  have hresults : ∀ w ∈ resultsWords, (Call.search s r).vocabulary.Explains w :=
    Vocabulary.explains_fixed (List.subset_append_left _ _)
  have hprojection : ∀ w ∈ projectionWords, (Call.search s r).vocabulary.Explains w :=
    Vocabulary.explains_fixed (List.subset_append_right _ _)
  exact isSafe_results h hresults (explains_label hschema)
    (explains_effectiveFields hschema hfields) (allowsField_filters hrequest)
    (fun lines hlines => isSafe_projection hprojection hlines fun _ field hfield =>
      allowsField_relationship hschema hfield)
    (explains_order (by simp [Call.vocabulary])) (.number List.mem_cons_self)
    (.number (List.mem_cons_of_mem _ List.mem_cons_self))

/-- The text of a statement that counts. -/
theorem isSafe_text_count {s : Schema} {r : SearchRequest} {st : Statement}
    (h : count s r = .ok st) : IsSafe (Call.count s r).vocabulary.Explains st.text.toList := by
  have hschema : Call.schemaNames s ⊆ (Call.count s r).vocabulary.names := by
    simp [Call.vocabulary]
  have hrequest : Call.requestNames r ⊆ (Call.count s r).vocabulary.names := by
    simp [Call.vocabulary]
  have hfields : r.searchableFields ⊆ (Call.count s r).vocabulary.names :=
    List.Subset.trans (List.subset_append_left _ _) hrequest
  have hfixed : ∀ w ∈ (Call.count s r).vocabulary.fixed, (Call.count s r).vocabulary.Explains w :=
    fun _ => .fixed
  exact isSafe_count h hfixed (explains_label hschema)
    (explains_effectiveFields hschema hfields) (allowsField_filters hrequest)

/-- The text of a search for a text alone, which has no linked nodes in it and
is in the order that is the default. -/
theorem isSafe_text_textSearch {s : Schema} {term : String} {skip limit : Option UInt64}
    {st : Statement} (h : textSearch s term skip limit = .ok st) :
    IsSafe (Call.textSearch s term skip limit).vocabulary.Explains st.text.toList := by
  have hschema : Call.schemaNames s ⊆ (Call.textSearch s term skip limit).vocabulary.names :=
    List.Subset.refl _
  have hresults : ∀ w ∈ resultsWords, (Call.textSearch s term skip limit).vocabulary.Explains w :=
    Vocabulary.explains_fixed (List.subset_append_left _ _)
  have hwords : ∀ w ∈ resultsWords ++ ["RETURN", "DISTINCT", "created_at"],
      (Call.textSearch s term skip limit).vocabulary.Explains w :=
    Vocabulary.explains_fixed (List.Subset.refl _)
  have horder : ({ pageSize := 0 } : SearchRequest).soughtOrder = some "created_at" := by decide
  refine isSafe_results h hresults (explains_label hschema)
    (explains_effectiveFields hschema (List.nil_subset _)) (List.forall_mem_nil _) ?_ ?_
    (.number List.mem_cons_self) (.number (List.mem_cons_of_mem _ List.mem_cons_self))
  · intro lines hlines
    obtain rfl : ["RETURN DISTINCT n"] = lines := Except.ok.inj hlines
    exact List.forall_mem_singleton.2 (isSafe_fixed hwords _ rfl (by decide))
  · intro order hsought _
    obtain rfl : "created_at" = order := Option.some.inj (horder.symm.trans hsought)
    exact hwords "created_at" (List.mem_append_right _ (by simp))

/-! ### Statements -/

open Vocabulary in
/-- **The text of every statement is safe,** and its words are explained by the
vocabulary of the call that made it, whatever the arguments are. -/
theorem isSafe_text {c : Call} {st : Statement} (h : c.statement = .ok st) :
    IsSafe c.vocabulary.Explains st.text.toList := by
  have hfixed : ∀ w ∈ c.vocabulary.fixed, c.vocabulary.Explains w := fun _ => .fixed
  cases c with
  | createNode => exact isSafe_createNode h hfixed (explains_name List.mem_cons_self)
  | findById => exact isSafe_findById h hfixed (explains_name List.mem_cons_self)
  | findByField =>
    exact isSafe_findByField h hfixed (explains_name List.mem_cons_self)
      (explains_name (List.mem_cons_of_mem _ List.mem_cons_self))
  | updateNode => exact isSafe_updateNode h hfixed (explains_name List.mem_cons_self)
  | softDelete => exact isSafe_softDelete h hfixed (explains_name List.mem_cons_self)
  | detachDelete => exact isSafe_detachDelete h hfixed (explains_name List.mem_cons_self)
  | mergeEdge => exact isSafe_mergeEdge h hfixed (explains_name List.mem_cons_self)
  | syncEdges => exact isSafe_syncEdges h hfixed (explains_name List.mem_cons_self)
  | linkedNodes sourceLabel id type direction targetLabel =>
    exact isSafe_linkedNodes h hfixed (explains_name List.mem_cons_self)
      (explains_name (List.mem_cons_of_mem _ List.mem_cons_self)) fun label hlabel =>
        explains_name (List.mem_cons_of_mem _ (List.mem_cons_of_mem _ (Option.mem_toList.2 hlabel)))
  | edgesOf =>
    exact isSafe_edgesOf h hfixed (explains_name List.mem_cons_self)
      (explains_name (List.mem_cons_of_mem _ List.mem_cons_self))
  | search => exact isSafe_text_search h
  | count => exact isSafe_text_count h
  | textSearch => exact isSafe_text_textSearch h

/-- The third page of the notes of some kinds. The first letter of the name of
the kinds is a Kelvin sign, whose small letter is an ASCII one. -/
def notesOfKind : Call :=
  .search
    (.ofFields "Note" [.scalar "title" .string, .relationship "\u212aINDS" ["OF_KIND", "LIKE"]])
    { text := some "'; MATCH (m) DETACH DELETE m //", page := 3, orderBy := some " title ",
      filters := [⟨(Field.relationship "\u212aINDS" ["OF_KIND"]).targetField "name",
        .oneOf ["') RETURN 1 //"]⟩] }

theorem isSafe_notesOfKind : ∃ st, notesOfKind.statement = .ok st ∧
    IsSafe notesOfKind.vocabulary.Explains st.text.toList := by
  have hok : notesOfKind.statement.toOption.isSome = true := by decide
  obtain ⟨st, hst⟩ := exists_ok_of_isSome hok
  exact ⟨st, hst, isSafe_text hst⟩

end EntityGraph.Statement
