import EntityGraph.Proofs.Statement.Independence
import EntityGraph.Proofs.Statement.Paging
import EntityGraph.Proofs.Statement.Parts
/-!
# What is written for a request

The lines and the conditions of a search, written out from what the schema and
the request say, with nothing that can fail: a statement that a search gives has
these lines and these conditions (`lines_matching_eq`, `projection_eq_lines`,
`pageLines_eq`).
-/

namespace EntityGraph

open Text (join)

/-- A label as it is written behind a variable. -/
def labelText (label : Option String) : String :=
  match label with
  | none => ""
  | some text => if text.isEmpty then "" else ":" ++ text

/-- The pattern of a link from the node `n` to a node. -/
def Link.pattern (link : Link) (variableName : String) : String :=
  "(n)" ++ link.direction.arrows.1 ++ "[:" ++ join "|" link.types ++ "]" ++ link.direction.arrows.2
    ++ "(" ++ variableName ++ labelText link.targetLabel ++ ")"

/-- The line by which a filter matches linked nodes: a list of texts for a
relationship field has one. -/
def Filter.matchLine (f : Filter) : Option String :=
  match f.value, f.field.link with
  | .oneOf _, some link => some ("MATCH " ++ link.pattern ("target_" ++ f.parameter))
  | _, _ => none

/-- The condition that a filter puts on an entity, or on a node linked to it by
the property that the link declares. -/
def Filter.condition (f : Filter) : String :=
  match f.value, f.field.link with
  | .oneOf _, some link =>
    "toLower(target_" ++ f.parameter ++ "." ++ link.targetField.getD "" ++ ") IN $" ++ f.parameter
  | .oneOf _, none => "n." ++ f.field.storedName ++ " IN $" ++ f.parameter
  | .text _, _ => "toLower(n." ++ f.field.storedName ++ ") CONTAINS $" ++ f.parameter
  | .enum _, _ | .integer _, _ | .float _, _ | .boolean _, _ | .datetime _, _ =>
    "n." ++ f.field.storedName ++ " = $" ++ f.parameter

/-- The condition that free text is found in a field. -/
def foundIn (field : String) : String :=
  "toLower(toString(n." ++ field ++ ")) CONTAINS $text_search"

/-- The conditions of a request: that an entity is not deleted, unless deleted
ones are wanted; that free text is found, if there is any and a field to look for
it in; and one for each active filter. -/
def SearchRequest.conditions (r : SearchRequest) (s : Schema) : List String :=
  (if r.includeDeleted then [] else ["(n.deleted_at IS NULL)"])
    ++ (if r.hasText && !(r.effectiveFields s).isEmpty then
        ["(" ++ join " OR " ((r.effectiveFields s).map foundIn) ++ ")"] else [])
    ++ r.activeFilters.map Filter.condition

/-- What gathers the nodes that a relationship field is linked to. -/
def Link.gathering (link : Link) (variableName : String) : String :=
  match link.cardinality with
  | .count => "count(DISTINCT " ++ variableName ++ ")"
  | .collection => "collect(DISTINCT " ++ variableName ++ ")"
  | .single => "head(collect(DISTINCT " ++ variableName ++ "))"

/-- A number behind a word, unless it is zero. -/
def counted (word : String) (number : Nat) : List String :=
  if number = 0 then [] else [word ++ " " ++ toString number]

/-- The lines that order and limit the entities of a request. -/
def SearchRequest.pageLines (r : SearchRequest) : List String :=
  (r.soughtOrder.toList.map fun order =>
      "ORDER BY n." ++ order ++ " " ++ if r.descending then "DESC" else "ASC")
    ++ (counted "SKIP" ((max r.page.toNat 1 - 1) * r.pageSize.toNat)
      ++ counted "LIMIT" r.pageSize.toNat)

namespace Statement

/-- The lines that return the entities of a type: each relationship field is
matched, and what it is linked to is gathered under a column and returned. -/
def projectionLines (s : Schema) : List String :=
  if s.relationships.isEmpty then ["RETURN DISTINCT n"]
  else
    (linkedFields s).map (fun p => "OPTIONAL MATCH " ++ p.2.pattern ("rel_" ++ p.1.lowerName))
      ++ ["WITH " ++ join ", " ("n" :: (linkedFields s).map fun p =>
          p.2.gathering ("rel_" ++ p.1.lowerName) ++ " AS " ++ linkColumn p.1 p.2),
        "RETURN DISTINCT " ++ join ", " ("n" :: (linkedFields s).map fun p => linkColumn p.1 p.2)]

/-! ### Patterns -/

theorem text_of_withLabel {variableName : String} {label : Option String} {node : NodePattern}
    (h : NodePattern.withLabel variableName label = .ok node) :
    node.text = "(" ++ variableName ++ labelText label ++ ")" := by
  unfold NodePattern.withLabel at h
  unfold labelText
  cases label with
  | none =>
    cases h
    simp [NodePattern.text]
  | some text =>
    by_cases hempty : text.isEmpty = true
    · simp only [hempty, if_true] at h ⊢
      cases h
      simp [NodePattern.text]
    · simp only [hempty] at h ⊢
      obtain ⟨i, hi, rfl⟩ := map_eq_ok.1 h
      simp [NodePattern.text, Identifier.text_of_ofText hi, String.append_assoc]

theorem map_text_of_identifyTypes {types : List String} {identifiers : List Identifier}
    (h : identifyTypes types = .ok identifiers) : identifiers.map Identifier.text = types := by
  unfold identifyTypes at h
  split at h
  · simp at h
  · exact map_text_of_mapM h

/-- The pattern of a link, as the names in it were checked. -/
theorem text_eq_pattern {link : Link} {variableName : String} {types : List Identifier}
    {target : NodePattern} (htypes : identifyTypes link.types = .ok types)
    (htarget : NodePattern.withLabel variableName link.targetLabel = .ok target) :
    EdgePattern.text
      { source := { variableName := "n" }, types, direction := link.direction, target } =
        link.pattern variableName := by
  rw [EdgePattern.text, text_of_withLabel htarget, map_text_of_identifyTypes htypes, Link.pattern,
    ← String.toList_inj]
  simp [NodePattern.text]

/-! ### What selects entities -/

theorem filterClause_eq_texts {f : Filter} {c : FilterClause} (h : filterClause f = .ok c) :
    c.matching = f.matchLine ∧ c.condition = f.condition := by
  obtain ⟨-, ⟨texts, link, hvalue, hlink, hclause⟩ | ⟨storedName, hstored, hother, rfl⟩⟩ :=
    filterClause_eq_ok h
  · obtain ⟨targetField, target, types, hfield, htarget, htypes, rfl⟩ := linkedClause_eq_ok hclause
    rw [Filter.matchLine, Filter.condition, hvalue, hlink, text_eq_pattern htypes htarget,
      NodePattern.variableName_of_withLabel htarget]
    simp [hfield, ← String.append_assoc]
  · unfold Filter.matchLine Filter.condition
    rw [← hstored]
    cases hvalue : f.value with
    | oneOf texts =>
      rw [hother texts hvalue]
      exact ⟨rfl, rfl⟩
    | _ => exact ⟨rfl, rfl⟩

theorem map_fst_textClause {s : Schema} {r : SearchRequest} {text : Option (String × String)}
    (h : textClause s r = .ok text) : text.toList.map Prod.fst =
      if r.hasText && !(r.effectiveFields s).isEmpty then
        ["(" ++ join " OR " ((r.effectiveFields s).map foundIn) ++ ")"] else [] := by
  rw [← isSome_soughtText]
  obtain ⟨rfl, hnone | hempty⟩ | ⟨sought, fields, hsought, hfields, hnames, rfl⟩ :=
    textClause_eq_ok h
  · simp [hnone]
  · simp [hempty]
  · rw [hsought, hfields, ← hnames, List.map_map]
    rfl

/-- **The lines that select the entities of a request.** -/
theorem lines_matching_eq {s : Schema} {r : SearchRequest} {m : Matching}
    (h : matching s r = .ok m) :
    m.lines = ("MATCH (n:" ++ s.label ++ ")") ::
      (r.activeFilters.filterMap Filter.matchLine ++ whereLines (r.conditions s)) := by
  obtain ⟨text, clauses, htext, hclauses, hlines⟩ := isSelection_of_matching h
  have hmatchings :
      clauses.filterMap (·.matching) = r.activeFilters.filterMap Filter.matchLine := by
    have hmap : clauses.map (·.matching) = r.activeFilters.map Filter.matchLine :=
      map_of_mapM (fun _ _ _ hclause => (filterClause_eq_texts hclause).1) hclauses
    have hwritten := congrArg (List.filterMap id) hmap
    rwa [List.filterMap_map, List.filterMap_map] at hwritten
  have hconditions : clauses.map (·.condition) = r.activeFilters.map Filter.condition :=
    map_of_mapM (fun _ _ _ hclause => (filterClause_eq_texts hclause).2) hclauses
  rw [hlines, map_fst_textClause htext, hmatchings, hconditions]
  rfl

/-! ### What returns and orders them -/

theorem linkClause_eq_texts {field : Field} {link : Link} {c : LinkClause}
    (h : linkClause field link = .ok c) :
    c.matching = "OPTIONAL MATCH " ++ link.pattern ("rel_" ++ field.lowerName) ∧
      gathered c =
        link.gathering ("rel_" ++ field.lowerName) ++ " AS " ++ linkColumn field link := by
  have hcolumn := (linkClause_spec h).2.2.2
  obtain ⟨lowerName, hlower, h⟩ := bind_eq_ok.1 h
  obtain ⟨types, htypes, h⟩ := bind_eq_ok.1 h
  obtain ⟨target, htarget, h⟩ := bind_eq_ok.1 h
  rw [Identifier.text_of_ofText hlower] at htarget
  obtain rfl := pure_eq_ok.1 h
  refine ⟨congrArg ("OPTIONAL MATCH " ++ ·) (text_eq_pattern htypes htarget), ?_⟩
  rw [gathered, hcolumn, NodePattern.variableName_of_withLabel htarget, Link.gathering]
  cases link.cardinality <;> rfl

theorem projection_eq_lines {s : Schema} {projected : List String}
    (h : projection s true = .ok projected) : projected = projectionLines s := by
  unfold projection at h
  unfold projectionLines
  cases hempty : s.relationships.isEmpty with
  | true =>
    rw [if_neg (by simp [Schema.hasRelationships, hempty])] at h
    exact (Except.ok.inj h).symm
  | false =>
    rw [if_pos (by simp [Schema.hasRelationships, hempty])] at h
    obtain ⟨clauses, hclauses, rfl⟩ := map_eq_ok.1 h
    have hmatchings : clauses.map (·.matching) = (linkedFields s).map fun p =>
        "OPTIONAL MATCH " ++ p.2.pattern ("rel_" ++ p.1.lowerName) :=
      map_of_mapM (fun _ _ _ hclause => (linkClause_eq_texts hclause).1) hclauses
    have hgathered : clauses.map gathered = (linkedFields s).map fun p =>
        p.2.gathering ("rel_" ++ p.1.lowerName) ++ " AS " ++ linkColumn p.1 p.2 :=
      map_of_mapM (fun _ _ _ hclause => (linkClause_eq_texts hclause).2) hclauses
    rw [linkedProjection_eq, hmatchings, gathering, hgathered, returning,
      columns_linkClauses hclauses]
    simp

theorem orderLines_eq {r : SearchRequest} {ordered : List String} (h : orderLines r = .ok ordered) :
    ordered = r.soughtOrder.toList.map fun order =>
      "ORDER BY n." ++ order ++ " " ++ if r.descending then "DESC" else "ASC" := by
  unfold orderLines at h
  cases hsought : r.soughtOrder with
  | none =>
    rw [hsought] at h
    exact (Except.ok.inj h).symm
  | some order =>
    rw [hsought] at h
    obtain ⟨field, hfield, rfl⟩ := map_eq_ok.1 h
    rw [Identifier.text_of_ofText hfield]
    rfl

theorem numberLine_eq (word : String) (number : UInt64) :
    numberLine word number = counted word number.toNat := by
  unfold numberLine counted
  by_cases hzero : number = 0
  · simp [hzero]
  · have hne : number.toNat ≠ 0 := fun h => hzero (UInt64.toNat_inj.1 h)
    rw [if_neg hzero, if_neg hne]

theorem pageLines_eq {r : SearchRequest} {ordered : List String} (h : orderLines r = .ok ordered) :
    pageLines ordered r.skip r.pageSize.toUInt64 = r.pageLines := by
  have hskip : r.skip.toNat = (max r.page.toNat 1 - 1) * r.pageSize.toNat := by
    rw [SearchRequest.toNat_skip]
    congr 1
    omega
  rw [pageLines, numberLine_eq, numberLine_eq, hskip, UInt32.toNat_toUInt64, orderLines_eq h,
    SearchRequest.pageLines]

end Statement

end EntityGraph
