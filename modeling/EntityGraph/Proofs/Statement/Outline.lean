import EntityGraph.Proofs.Statement.Acceptance
import EntityGraph.Proofs.Statement.Wording
import EntityGraph.Proofs.Text.Join
/-!
# The outline of a search

Split at line feeds, the text of a search is the lines that are written for its
request, and the conditions are found again when the line that joins them is
split at ` AND ` (`parts_search`). No name has a line feed or a blank in it, so
none can end a line or join conditions. In what is written around the names no
blank comes before an `A`, not even where two texts meet, so the conditions are
joined nowhere but between them.
-/

namespace EntityGraph

open Statement (isNameChar_of_mem)
open Text (Avoids avoids_join avoids_of_not_mem join join_induction parts parts_join parts_unlines)

/-! ### Lines -/

/-- A text without line feeds. -/
def IsLine (s : String) : Prop :=
  '\n' ∉ s.toList

instance (s : String) : Decidable (IsLine s) :=
  inferInstanceAs (Decidable (_ ∉ _))

@[simp] theorem isLine_append {s t : String} : IsLine (s ++ t) ↔ IsLine s ∧ IsLine t := by
  simp [IsLine, not_or]

theorem isLine_of_isName {name : String} (h : isName name = true) : IsLine name := fun hmem =>
  absurd (isNameChar_of_mem h hmem) (by decide)

theorem isLine_join {sep : String} (hsep : IsLine sep) {parts : List String}
    (h : ∀ part ∈ parts, IsLine part) : IsLine (join sep parts) :=
  join_induction (by decide) (fun s t hs ht => by simp [hs, hsep, ht]) h

theorem isLine_labelText {label : Option String} (h : IsOpenOrName label) :
    IsLine (labelText label) := by
  unfold labelText
  cases label with
  | none => decide
  | some text =>
    obtain rfl | hname := h text rfl
    · decide
    · simp only
      split
      · decide
      · simp +decide [isLine_of_isName hname]

theorem Link.IsNamed.isLine_pattern {link : Link} (h : link.IsNamed) {variableName : String}
    (hvariable : IsLine variableName) : IsLine (link.pattern variableName) := by
  have htypes : IsLine (join "|" link.types) :=
    isLine_join (by decide) fun type htype => isLine_of_isName (h.types type htype)
  have harrows : IsLine link.direction.arrows.1 ∧ IsLine link.direction.arrows.2 := by
    cases link.direction <;> decide
  simp +decide [Link.pattern, harrows.1, harrows.2, htypes, hvariable, isLine_labelText h.label]

theorem Link.isLine_gathering (link : Link) {variableName : String}
    (hvariable : IsLine variableName) : IsLine (link.gathering variableName) := by
  unfold Link.gathering
  split <;> simp +decide [hvariable]

theorem Filter.IsNamed.isLine_matchLine {f : Filter} (h : f.IsNamed) :
    ∀ line ∈ f.matchLine, IsLine line := by
  obtain ⟨hparameter, hvalue⟩ := h
  unfold Filter.matchLine
  split
  · next link hlist hlink =>
    rw [hlist, hlink] at hvalue
    have hvariable : IsLine ("target_" ++ f.parameter) := by
      simp +decide [isLine_of_isName hparameter]
    rintro line ⟨⟩
    simp +decide [hvalue.2.isLine_pattern hvariable]
  · simp

/-! ### Conditions -/

/-- A text on one line in which no two conditions are joined. -/
def IsSingle (s : String) : Prop :=
  IsLine s ∧ Avoids ' ' 'A' s

instance (s : String) : Decidable (IsSingle s) :=
  inferInstanceAs (Decidable (_ ∧ _))

theorem isSingle_of_isName {name : String} (h : isName name = true) : IsSingle name :=
  ⟨isLine_of_isName h, avoids_of_not_mem 'A' fun hmem =>
    absurd (isNameChar_of_mem h hmem) (by decide)⟩

theorem IsSingle.append {s t : String} (hs : IsSingle s) (ht : IsSingle t) : IsSingle (s ++ t) :=
  ⟨isLine_append.2 ⟨hs.1, ht.1⟩, hs.2.append ht.2⟩

theorem Filter.IsNamed.isSingle_condition {f : Filter} (h : f.IsNamed) : IsSingle f.condition := by
  obtain ⟨hparameter, hvalue⟩ := h
  have hparameter := isSingle_of_isName hparameter
  -- A stored name between two fixed texts, and the parameter.
  have hstored {before after : String} (hname : isName f.field.storedName = true)
      (hbefore : IsSingle before) (hafter : IsSingle after) :
      IsSingle (before ++ f.field.storedName ++ after ++ f.parameter) :=
    ((hbefore.append (isSingle_of_isName hname)).append hafter).append hparameter
  unfold Filter.condition
  cases hform : f.value with
  | oneOf texts =>
    cases hlink : f.field.link with
    | none =>
      rw [hform, hlink] at hvalue
      exact hstored hvalue (by decide) (by decide)
    | some link =>
      rw [hform, hlink] at hvalue
      obtain ⟨⟨name, htarget, hname⟩, -⟩ := hvalue
      simp only [Option.mem_def.1 htarget, Option.getD_some]
      have htargetVariable : IsSingle ("toLower(target_" ++ f.parameter) :=
        IsSingle.append (by decide) hparameter
      have hproperty : IsSingle ("toLower(target_" ++ f.parameter ++ "." ++ name) :=
        (htargetVariable.append (by decide)).append (isSingle_of_isName hname)
      exact (hproperty.append (by decide)).append hparameter
  | text sought =>
    rw [hform] at hvalue
    exact hstored hvalue (by decide) (by decide)
  | enum _ | integer _ | float _ | boolean _ | datetime _ =>
    rw [hform] at hvalue
    exact hstored hvalue (by decide) (by decide)

/-- Free text in one of some fields is a single condition: its parts are joined
by another word. -/
theorem isSingle_found {fields : List String} (hfields : ∀ field ∈ fields, isName field = true) :
    IsSingle ("(" ++ join " OR " (fields.map foundIn) ++ ")") := by
  have hfound : ∀ condition ∈ fields.map foundIn,
      IsSingle condition ∧ IsSingle (" OR " ++ condition) := by
    refine List.forall_mem_map.2 fun field hfield => ?_
    have hend : IsSingle (field ++ ")) CONTAINS $text_search") :=
      (isSingle_of_isName (hfields field hfield)).append (by decide)
    have hstart : IsSingle "toLower(toString(n." := by decide
    have hbehind : IsSingle (" OR " ++ "toLower(toString(n.") := by decide
    have hfound : foundIn field =
        "toLower(toString(n." ++ (field ++ ")) CONTAINS $text_search") := String.append_assoc
    rw [hfound]
    refine ⟨hstart.append hend, ?_⟩
    rw [← String.append_assoc]
    exact hbehind.append hend
  have hjoined : IsSingle (join " OR " (fields.map foundIn)) := by
    generalize fields.map foundIn = conditions at hfound
    refine ⟨isLine_join (by decide) fun c hc => (hfound c hc).1.1, ?_⟩
    cases conditions with
    | nil => decide
    | cons first more => exact (avoids_join fun c hc => ⟨(hfound c hc).1.2, (hfound c hc).2.2⟩).1
  exact (IsSingle.append (by decide) hjoined).append (by decide)

namespace Statement

theorem isSingle_conditions {s : Schema} {r : SearchRequest} (h : IsSelectable s r) :
    ∀ c ∈ r.conditions s, IsSingle c := by
  unfold SearchRequest.conditions
  rw [List.forall_mem_append, List.forall_mem_append]
  refine ⟨⟨?_, ?_⟩, ?_⟩
  · split
    · simp
    · decide
  · split
    · next hfound =>
      rw [Bool.and_eq_true] at hfound
      exact List.forall_mem_singleton.2 (isSingle_found (h.fields hfound.1))
    · simp
  · refine List.forall_mem_map.2 fun f hf => ?_
    obtain ⟨hmem, hactive⟩ := List.mem_filter.1 hf
    exact (h.filters f hmem hactive).isSingle_condition

theorem isLine_projectionLines {s : Schema} (h : ∀ field ∈ s.relationships, ∀ link ∈ field.link,
    EntityGraph.isName field.lowerName = true ∧ link.IsNamed) :
    ∀ line ∈ projectionLines s, IsLine line := by
  have hlinked : ∀ p ∈ linkedFields s, IsLine ("rel_" ++ p.1.lowerName) ∧ p.2.IsNamed ∧
      IsLine (linkColumn p.1 p.2) := by
    intro p hp
    obtain ⟨field, hfield, hpair⟩ := List.mem_filterMap.1 hp
    obtain ⟨link, hlink, rfl⟩ := Option.map_eq_some_iff.1 hpair
    obtain ⟨hname, hnamed⟩ := h field hfield link hlink
    exact ⟨by simp +decide [isLine_of_isName hname], hnamed,
      isLine_of_isName (isName_linkColumn hname)⟩
  unfold projectionLines
  split
  · decide
  · rw [List.forall_mem_append, List.forall_mem_map, List.forall_mem_cons,
      List.forall_mem_singleton]
    refine ⟨fun p hp => ?_, ?_, ?_⟩
    · simp +decide [(hlinked p hp).2.1.isLine_pattern (hlinked p hp).1]
    · have hitems : IsLine (join ", " ("n" :: (linkedFields s).map fun p =>
          p.2.gathering ("rel_" ++ p.1.lowerName) ++ " AS " ++ linkColumn p.1 p.2)) := by
        refine isLine_join (by decide) (List.forall_mem_cons.2 ⟨by decide, ?_⟩)
        refine List.forall_mem_map.2 fun p hp => ?_
        simp +decide [p.2.isLine_gathering (hlinked p hp).1, (hlinked p hp).2.2]
      simp +decide [hitems]
    · have hcolumns :
          IsLine (join ", " ("n" :: (linkedFields s).map fun p => linkColumn p.1 p.2)) :=
        isLine_join (by decide) (List.forall_mem_cons.2 ⟨by decide,
          List.forall_mem_map.2 fun p hp => (hlinked p hp).2.2⟩)
      simp +decide [hcolumns]

theorem isLine_counted {word : String} (hword : IsLine word) (number : Nat) :
    ∀ line ∈ counted word number, IsLine line := by
  have hdigits : IsLine (toString number) := by
    intro hmem
    exact absurd (isDigit_of_mem_toString hmem) (by decide)
  unfold counted
  split
  · simp
  · have hspaced : IsLine (word ++ " ") := isLine_append.2 ⟨hword, by decide⟩
    exact List.forall_mem_singleton.2 (isLine_append.2 ⟨hspaced, hdigits⟩)

theorem isLine_pageLines {r : SearchRequest} (h : IsOpenOrName (r.orderBy.map Text.trim)) :
    ∀ line ∈ r.pageLines, IsLine line := by
  unfold SearchRequest.pageLines
  rw [List.forall_mem_append, List.forall_mem_append, List.forall_mem_map]
  refine ⟨fun order horder => ?_, isLine_counted (by decide) _, isLine_counted (by decide) _⟩
  obtain ⟨horder, hne⟩ := Option.filter_eq_some_iff.1 (Option.mem_toList.1 horder)
  obtain rfl | hname := h order horder
  · simp at hne
  · split <;> simp +decide [isLine_of_isName hname]

/-- **A search has the lines that are written for its request,** one of them for
all of its conditions, if it has any, and these are the parts of that line. -/
theorem parts_search {s : Schema} {r : SearchRequest} {st : Statement} (h : search s r = .ok st) :
    ∃ wheres : List String,
      parts "\n" st.text = ("MATCH (n:" ++ s.label ++ ")") ::
        (r.activeFilters.filterMap Filter.matchLine
          ++ (wheres ++ (projectionLines s ++ r.pageLines))) ∧
      (r.conditions s = [] → wheres = []) ∧
      (r.conditions s ≠ [] → ∃ joined, wheres = ["WHERE " ++ joined] ∧
        parts " AND " joined = r.conditions s) := by
  obtain ⟨hselectable, hlinks, horder⟩ := exists_results_iff.1 ⟨st, h⟩
  obtain ⟨m, projected, ordered, hm, hprojected, hordered, rfl⟩ := results_eq_ok h
  have hsingle := isSingle_conditions hselectable
  have hwheres : ∀ line ∈ whereLines (r.conditions s), IsLine line := by
    unfold whereLines
    split
    · simp
    · have hjoined : IsLine (join " AND " (r.conditions s)) :=
        isLine_join (by decide) fun c hc => (hsingle c hc).1
      simp +decide [hjoined]
  refine ⟨whereLines (r.conditions s), ?_, fun hnone => by rw [hnone]; rfl, fun hsome => ?_⟩
  · rw [lines_matching_eq hm, projection_eq_lines hprojected, pageLines_eq hordered,
      List.cons_append, List.append_assoc]
    have hfirst : IsLine ("MATCH (n:" ++ s.label ++ ")") := by
      simp +decide [isLine_of_isName hselectable.label]
    refine parts_unlines ?_
    rw [List.forall_mem_cons, List.forall_mem_append, List.forall_mem_append,
      List.forall_mem_append]
    refine ⟨hfirst, ?_, hwheres, isLine_projectionLines hlinks, isLine_pageLines horder⟩
    intro line hline
    obtain ⟨f, hf, hline⟩ := List.mem_filterMap.1 hline
    obtain ⟨hmem, hactive⟩ := List.mem_filter.1 hf
    exact (hselectable.filters f hmem hactive).isLine_matchLine line hline
  · refine ⟨join " AND " (r.conditions s), by simp [whereLines, hsome], ?_⟩
    cases hconditions : r.conditions s with
    | nil => exact absurd hconditions hsome
    | cons first more =>
      rw [hconditions] at hsingle
      exact parts_join (by decide) fun c hc => (hsingle c hc).2.isPart rfl

/-- Notes with tags and with a number of likes. -/
def taggedSchema : Schema :=
  .ofFields "Note" [(Field.scalar "title" .string).markSearchable,
    (Field.relationship "Tagged" ["TAG", "MARK"]).target "Tag",
    ((Field.relationship "liked_by" ["LIKE"]).directed .incoming).countOnly]

/-- A request for the last page that there can be. -/
def lastRequest : SearchRequest where
  text := some " Lean "
  page := 4294967295
  pageSize := 4294967295
  filters := [⟨.scalar "rank" .integer, .integer 1⟩, ⟨.scalar "draft" .boolean, .boolean false⟩,
    ⟨((Field.relationship "Tagged" ["TAG", "MARK"]).target "Tag").targetField "name",
      .oneOf ["x"]⟩]

theorem parts_search_lastRequest : ∃ st, search taggedSchema lastRequest = .ok st ∧
    ∃ joined, parts "\n" st.text = ["MATCH (n:Note)",
      "MATCH (n)-[:TAG|MARK]->(target_tagged:Tag)", "WHERE " ++ joined,
      "OPTIONAL MATCH (n)-[:TAG|MARK]->(rel_tagged:Tag)",
      "OPTIONAL MATCH (n)<-[:LIKE]-(rel_liked_by)",
      "WITH n, collect(DISTINCT rel_tagged) AS tagged_collection, " ++
        "count(DISTINCT rel_liked_by) AS liked_by_collection",
      "RETURN DISTINCT n, tagged_collection, liked_by_collection", "ORDER BY n.created_at DESC",
      "SKIP 18446744060824649730", "LIMIT 4294967295"] ∧
      parts " AND " joined = ["(n.deleted_at IS NULL)",
        "(toLower(toString(n.title)) CONTAINS $text_search)", "n.rank = $rank",
        "toLower(target_tagged.name) IN $tagged"] := by
  have hok : (search taggedSchema lastRequest).toOption.isSome = true := by decide
  obtain ⟨st, hst⟩ := exists_ok_of_isSome hok
  have hconditions : lastRequest.conditions taggedSchema = ["(n.deleted_at IS NULL)",
      "(toLower(toString(n.title)) CONTAINS $text_search)", "n.rank = $rank",
      "toLower(target_tagged.name) IN $tagged"] := by decide
  obtain ⟨wheres, hlines, -, hsome⟩ := parts_search hst
  obtain ⟨joined, rfl, hjoined⟩ := hsome (by rw [hconditions]; simp)
  refine ⟨st, hst, joined, hlines.trans ?_, hjoined.trans hconditions⟩
  have hmatching : lastRequest.activeFilters.filterMap Filter.matchLine =
      ["MATCH (n)-[:TAG|MARK]->(target_tagged:Tag)"] := by decide
  have hprojected : projectionLines taggedSchema = [
      "OPTIONAL MATCH (n)-[:TAG|MARK]->(rel_tagged:Tag)",
      "OPTIONAL MATCH (n)<-[:LIKE]-(rel_liked_by)",
      "WITH n, collect(DISTINCT rel_tagged) AS tagged_collection, " ++
        "count(DISTINCT rel_liked_by) AS liked_by_collection",
      "RETURN DISTINCT n, tagged_collection, liked_by_collection"] := by decide
  have hpage : lastRequest.pageLines = ["ORDER BY n.created_at DESC",
      "SKIP 18446744060824649730", "LIMIT 4294967295"] := by decide
  rw [hmatching, hprojected, hpage]
  rfl

end Statement

end EntityGraph
