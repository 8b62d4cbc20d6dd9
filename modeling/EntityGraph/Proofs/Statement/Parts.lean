import EntityGraph.Proofs.Statement.SearchColumns
/-!
# The parts of a search statement

What a search that gives a statement is made of, part by part: the free text
(`textClause_eq_ok`), each active filter (`filterClause_eq_ok`), and the lines
and parameters that the statements of a page and of the number of matches start
with (`matching_eq_ok`, `exists_matching`). Each law says everything that its
part can be.
-/

namespace EntityGraph.Statement

open Text (join unlines)

/-! ### Filters -/

/-- **What a filter on linked nodes adds:** a line that matches them, and a
condition on the property by which they are known. -/
theorem linkedClause_eq_ok {field : Field} {link : Link} {parameter : String}
    {texts : List String} {c : FilterClause} (h : linkedClause field link parameter texts = .ok c) :
    ∃ (targetField : Identifier) (target : NodePattern) (types : List Identifier),
      link.targetField = some targetField.text ∧
      NodePattern.withLabel ("target_" ++ parameter) link.targetLabel = .ok target ∧
      identifyTypes link.types = .ok types ∧
      c = { matching := some ("MATCH " ++ EdgePattern.text
              { source := { variableName := "n" }, types, direction := link.direction, target })
            condition := "toLower(" ++ target.variableName ++ "." ++ targetField.text ++ ") IN $"
              ++ parameter
            parameter
            value := .ofTexts (texts.map Text.lower) } := by
  unfold linkedClause at h
  split at h
  · next name hname =>
    obtain ⟨targetField, hfield, h⟩ := bind_eq_ok.1 h
    obtain ⟨target, htarget, h⟩ := bind_eq_ok.1 h
    obtain ⟨types, htypes, h⟩ := bind_eq_ok.1 h
    exact ⟨targetField, target, types, by rw [hname, Identifier.text_of_ofText hfield], htarget,
      htypes, (pure_eq_ok.1 h).symm⟩
  · simp at h

/-- A filter on linked nodes is a list of texts for a relationship field; every
other one is about a stored property. -/
theorem filterClause_eq_ok {f : Filter} {c : FilterClause} (h : filterClause f = .ok c) :
    isName f.parameter = true ∧
      ((∃ texts link, f.value = .oneOf texts ∧ f.field.link = some link ∧
          linkedClause f.field link f.parameter texts = .ok c) ∨
        ∃ storedName : Identifier, storedName.text = f.field.storedName ∧
          (∀ texts, f.value = .oneOf texts → f.field.link = none) ∧
          c = storedClause storedName f.parameter f.value) := by
  obtain ⟨parameter, hparameter, h⟩ := bind_eq_ok.1 h
  have hname := Identifier.text_of_ofText hparameter
  refine ⟨Identifier.isName_of_ofText hparameter, ?_⟩
  split at h
  · next texts link hvalue hlink => exact .inl ⟨texts, link, hvalue, hlink, hname ▸ h⟩
  · next hother =>
    obtain ⟨storedName, hstored, h⟩ := bind_eq_ok.1 h
    refine .inr ⟨storedName, Identifier.text_of_ofText hstored, fun texts hvalue => ?_, ?_⟩
    · cases hlink : f.field.link with
      | none => rfl
      | some link => exact absurd hlink (hother texts link hvalue)
    · rw [← pure_eq_ok.1 h, hname]

/-! ### Free text and label -/

theorem map_text_of_mapM {what : String} {names : List String} {fields : List Identifier}
    (h : names.mapM (Identifier.ofText what) = .ok fields) :
    fields.map Identifier.text = names := by
  have hmap : fields.map Identifier.text = names.map id :=
    map_of_mapM (fun _ _ _ hname => Identifier.text_of_ofText hname) h
  rwa [List.map_id] at hmap

/-- **What free text adds:** one condition on all fields that it is looked for
in, and the text that it is compared with. Without text or fields it adds
nothing. -/
theorem textClause_eq_ok {s : Schema} {r : SearchRequest} {text : Option (String × String)}
    (h : textClause s r = .ok text) :
    (text = none ∧ (r.soughtText = none ∨ (r.effectiveFields s).isEmpty = true)) ∨
      ∃ sought fields, r.soughtText = some sought ∧ (r.effectiveFields s).isEmpty = false ∧
        fields.map Identifier.text = r.effectiveFields s ∧
        text = some (textCondition fields, Text.lower sought) := by
  unfold textClause at h
  split at h
  · next hnone =>
    cases h
    exact .inl ⟨rfl, .inl hnone⟩
  · next sought hsought =>
    cases hempty : (r.effectiveFields s).isEmpty with
    | true =>
      simp only [hempty, if_true] at h
      exact .inl ⟨(Except.ok.inj h).symm, .inr rfl⟩
    | false =>
      simp only [hempty] at h
      obtain ⟨fields, hfields, rfl⟩ := map_eq_ok.1 h
      exact .inr ⟨sought, fields, hsought, rfl, map_text_of_mapM hfields, rfl⟩

/-- The condition that keeps deleted entities out, where they are not wanted. -/
def guards (r : SearchRequest) : List String :=
  if r.includeDeleted then [] else [notDeleted]

/-- **The parts of what selects entities:** the free text, the filters, and the
label. -/
theorem matching_eq_ok {s : Schema} {r : SearchRequest} {m : Matching}
    (h : matching s r = .ok m) :
    ∃ text clauses label, textClause s r = .ok text ∧
      r.activeFilters.mapM filterClause = .ok clauses ∧
      Identifier.ofText "label" s.label = .ok label ∧
      m.lines = ("MATCH " ++ (labelled label).text) :: (clauses.filterMap (·.matching) ++
        whereLines (guards r ++ text.toList.map Prod.fst ++ clauses.map (·.condition))) ∧
      m.parameters = .ofList (text.toList.map (fun t => ("text_search", Json.str t.2)) ++
        clauses.map fun c => (c.parameter, c.value)) := by
  obtain ⟨text, htext, h⟩ := bind_eq_ok.1 h
  obtain ⟨clauses, hclauses, h⟩ := bind_eq_ok.1 h
  obtain ⟨label, hlabel, h⟩ := bind_eq_ok.1 h
  obtain rfl := pure_eq_ok.1 h
  exact ⟨text, clauses, label, htext, hclauses, hlabel, rfl, rfl⟩

/-- A page and the number of matches start with what selects the entities, and
bind its parameters. -/
theorem exists_matching {s : Schema} {r : SearchRequest} {st : Statement}
    (h : search s r = .ok st ∨ count s r = .ok st) :
    ∃ m rest, matching s r = .ok m ∧ st = ⟨unlines (m.lines ++ rest), m.parameters⟩ := by
  rcases h with h | h
  · obtain ⟨m, projected, ordered, hm, -, -, rfl⟩ := results_eq_ok h
    exact ⟨m, _, hm, rfl⟩
  · obtain ⟨m, hm, h⟩ := bind_eq_ok.1 h
    obtain rfl := pure_eq_ok.1 h
    exact ⟨m, _, hm, rfl⟩

end EntityGraph.Statement
