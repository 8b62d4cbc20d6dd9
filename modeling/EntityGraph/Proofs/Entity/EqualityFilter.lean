import EntityGraph.Proofs.Entity.Conversion
import EntityGraph.Proofs.Entity.Sheet
import EntityGraph.Proofs.Statement.Parameters
/-!
# Filters that find what is stored

An entity is found by what is stored of it (`stored_agrees_with_filter`). A
filter that compares a field with a value is silent exactly when nothing is
stored of the value, and otherwise asks for the property that it is stored under
to be equal to what is stored. Storing and searching have a notion of their own of
values that say nothing, and a form of their own for the others; the law holds
because both agree for every value of a kind that can be compared (`Compared`),
numbers that are not finite among them.
-/

namespace EntityGraph

open Converter (storedJson? isOmitted toPropertiesBy get?_toPropertiesBy)
open Entity (readField)
open Statement (FilterClause filterClause search count)

/-- What a filter wants when it compares a field with a value of its kind. -/
inductive Compared : Kind → Value → FilterValue → Prop
  | integer (n : Int) : Compared .integer (.integer n) (.integer n)
  | float (x : Number.Binary64) : Compared .float (.float x) (.float x)
  | boolean (b : Bool) : Compared .boolean (.boolean b) (.boolean b)
  | datetime (t : Time.Instant) : Compared .datetime (.datetime t) (.datetime t)
  | enum (variants : List String) (variant : String) :
    Compared (.enum variants) (.enum variant) (.enum variant)

/-- No other field that shares the stored name of a field says anything: each of
them holds its default, which is null for a field that can be null. -/
def HoldsAlone {α : Type} [Entity α] (s : Schema) (entity : α) (f : Field) : Prop :=
  ∀ g ∈ s.scalars, g ≠ f → g.storedName = f.storedName →
    ∀ w ∈ readField entity g.name, isOmitted g w = true

instance {α : Type} [Entity α] (s : Schema) (entity : α) (f : Field) :
    Decidable (HoldsAlone s entity f) :=
  inferInstanceAs (Decidable (∀ g ∈ s.scalars, _))

/-- The condition that the property of a field is equal to a value. -/
def equalityClause (f : Field) (json : Json) : FilterClause where
  condition := "n." ++ f.storedName ++ " = $" ++ f.lowerName
  parameter := f.lowerName
  value := json

variable {f : Field} {v : Value} {wanted : FilterValue}

/-! ### The filter and the value -/

/-- **A filter is active when its value would be stored.** -/
theorem Compared.isActive (h : Compared f.kind v wanted) (hnullable : f.nullable = false) :
    Filter.isActive ⟨f, wanted⟩ = !isOmitted f v := by
  rw [isOmitted, hnullable, if_neg Bool.false_ne_true]
  generalize hkind : f.kind = kind at h
  cases h with
  | integer n => rfl
  | float x => rfl
  | boolean b => exact (Bool.not_not b).symm
  | datetime t => rfl
  | enum variants variant =>
    rw [Value.isDefault, Bool.not_or, Filter.isActive, hkind]
    rfl

/-- And it compares the property with what would be stored. -/
theorem Compared.filterClause_eq (h : Compared f.kind v wanted)
    (hstored : isName f.storedName = true) (hlower : isName f.lowerName = true) :
    filterClause ⟨f, wanted⟩ = .ok (equalityClause f v.toJson) := by
  have hparameter := Statement.Identifier.ofText_of_isName "filter parameter" hlower
  have hfield := Statement.Identifier.ofText_of_isName "field" hstored
  generalize f.kind = kind at h
  cases h with
  | integer _ | float _ | boolean _ | datetime _ | enum _ _ =>
    exact bind_eq_ok.2 ⟨_, hparameter, bind_eq_ok.2 ⟨_, hfield, rfl⟩⟩

/-- What is stored under the name of a field that says something alone. -/
theorem get?_toPropertiesBy_of_holdsAlone {α : Type} [Entity α] {s : Schema} {entity : α}
    (hf : f ∈ s.scalars) (halone : HoldsAlone s entity f) :
    (toPropertiesBy s entity).get? f.storedName = storedJson? entity f := by
  rw [get?_toPropertiesBy]
  have honly : ∀ json ∈ (s.scalars.filter (·.storedName == f.storedName)).filterMap
      (storedJson? entity), storedJson? entity f = some json := by
    intro json hjson
    obtain ⟨g, hg, hstored⟩ := List.mem_filterMap.1 hjson
    obtain ⟨hmem, hkey⟩ := List.mem_filter.1 hg
    by_cases hsame : g = f
    · exact hsame ▸ hstored
    · obtain ⟨w, hw, hsome⟩ := Option.bind_eq_some_iff.1 hstored
      simp [halone g hmem hsame (eq_of_beq hkey) w hw] at hsome
  cases hlast : ((s.scalars.filter (·.storedName == f.storedName)).filterMap
      (storedJson? entity)).getLast? with
  | some json => exact (honly json (List.mem_of_getLast? hlast)).symm
  | none =>
    cases hjson : storedJson? entity f with
    | none => rfl
    | some json =>
      have hmem : f ∈ s.scalars.filter (·.storedName == f.storedName) :=
        List.mem_filter.2 ⟨hf, beq_self_eq_true _⟩
      have hfound := List.mem_filterMap.2 ⟨f, hmem, hjson⟩
      rw [List.getLast?_eq_none_iff.1 hlast] at hfound
      simp at hfound

/-! ### Requests with few filters -/

namespace Statement

variable {r : SearchRequest} {s : Schema}

/-- A request without active filters is one without filters. -/
theorem search_count_of_inactive (h : r.activeFilters = []) (s : Schema) :
    search s r = search s { r with filters := [] } ∧
      count s r = count s { r with filters := [] } := by
  have hmatching : matching s r = matching s { r with filters := [] } := by
    rw [matching, matching, h]
    rfl
  constructor
  · rw [search, search, results, results, hmatching]
    rfl
  · rw [count, count, hmatching]

/-- Filters that all give a condition hinder no selection. -/
theorem exists_matching_of_clauses {clauses : List FilterClause}
    (hclauses : r.activeFilters.mapM filterClause = .ok clauses) {m : Matching}
    (h : matching s { r with filters := [] } = .ok m) :
    ∃ m', matching s r = .ok m' := by
  obtain ⟨text, -, label, htext, -, hlabel, -, -⟩ := matching_eq_ok h
  exact ⟨_, bind_eq_ok.2 ⟨text, htext, bind_eq_ok.2 ⟨clauses, hclauses,
    bind_eq_ok.2 ⟨label, hlabel, rfl⟩⟩⟩⟩

theorem exists_search_of_clauses {clauses : List FilterClause}
    (hclauses : r.activeFilters.mapM filterClause = .ok clauses) {st : Statement}
    (h : search s { r with filters := [] } = .ok st) : ∃ st', search s r = .ok st' := by
  obtain ⟨m, projected, ordered, hm, hprojected, hordered, -⟩ := results_eq_ok h
  obtain ⟨m', hm'⟩ := exists_matching_of_clauses hclauses hm
  exact ⟨_, bind_eq_ok.2 ⟨m', hm', bind_eq_ok.2 ⟨projected, hprojected,
    bind_eq_ok.2 ⟨ordered, hordered, rfl⟩⟩⟩⟩

theorem exists_count_of_clauses {clauses : List FilterClause}
    (hclauses : r.activeFilters.mapM filterClause = .ok clauses) {st : Statement}
    (h : count s { r with filters := [] } = .ok st) : ∃ st', count s r = .ok st' := by
  obtain ⟨m, hm, -⟩ := bind_eq_ok.1 h
  obtain ⟨m', hm'⟩ := exists_matching_of_clauses hclauses hm
  exact ⟨_, bind_eq_ok.2 ⟨m', hm', rfl⟩⟩

/-- The condition of a single active filter stands in every statement, and its
value is bound, whatever free text is looked for. -/
theorem asks_of_single {clause : FilterClause}
    (hclauses : r.activeFilters.mapM filterClause = .ok [clause]) {st : Statement}
    (h : search s r = .ok st ∨ count s r = .ok st) :
    st.Asks clause.condition ∧ st.parameters.get? clause.parameter = some clause.value := by
  obtain ⟨m, rest, hm, rfl⟩ := exists_matching h
  obtain ⟨text, clauses, label, -, hsame, -, hlines, hparameters⟩ := matching_eq_ok hm
  obtain rfl : [clause] = clauses := Except.ok.inj (hclauses.symm.trans hsame)
  refine ⟨asks_of_mem (by rw [hlines]) ?_, ?_⟩
  · exact List.mem_append_right _ (List.mem_singleton_self _)
  · rw [hparameters, Bag.get?_ofList]
    exact lastValue?_concat _ _ _

end Statement

/-! ### The request and what is stored -/

open Statement (search_count_of_inactive exists_search_of_clauses exists_count_of_clauses
  asks_of_single)

/-- What a request looks for when its only filter is on a field of which
something, or nothing, is stored. -/
structure LooksFor (r : SearchRequest) (f : Field) (stored : Option Json) : Prop where
  /-- There is a condition exactly when something is stored. -/
  active : r.activeFilters = [] ↔ stored = none
  /-- It is that the property is equal to what is stored. -/
  clauses : r.activeFilters.mapM filterClause = .ok (stored.toList.map (equalityClause f))
  /-- Where nothing is stored the filter adds nothing to a statement. -/
  silent : stored = none → ∀ s, search s r = search s { r with filters := [] } ∧
    count s r = count s { r with filters := [] }
  /-- The filter hinders no statement. -/
  searches : ∀ s st, search s { r with filters := [] } = .ok st → ∃ st', search s r = .ok st'
  counts : ∀ s st, count s { r with filters := [] } = .ok st → ∃ st', count s r = .ok st'
  /-- The condition stands in every statement, and what is stored is bound. -/
  asks : ∀ json, stored = some json → ∀ s st, (search s r = .ok st ∨ count s r = .ok st) →
    st.Asks (equalityClause f json).condition ∧ st.parameters.get? f.lowerName = some json

/-- A request whose only filter wants what an entity holds looks for what is
stored of it. -/
theorem looksFor_of_compared {r : SearchRequest} (hcompared : Compared f.kind v wanted)
    (hnullable : f.nullable = false) (hstored : isName f.storedName = true)
    (hlower : isName f.lowerName = true) (hr : r.filters = [⟨f, wanted⟩]) :
    LooksFor r f (if isOmitted f v then none else some v.toJson) := by
  have hactive := hcompared.isActive hnullable
  have hclause := hcompared.filterClause_eq hstored hlower
  cases homitted : isOmitted f v with
  | true =>
    have hfilters : r.activeFilters = [] := by
      simp [SearchRequest.activeFilters, hr, hactive, homitted]
    have hclauses : r.activeFilters.mapM filterClause = .ok [] := by
      rw [hfilters]
      rfl
    exact
      { active := by simp [hfilters]
        clauses := hclauses
        silent := fun _ => search_count_of_inactive hfilters
        searches := fun s st => exists_search_of_clauses hclauses
        counts := fun s st => exists_count_of_clauses hclauses
        asks := fun json hjson => by simp at hjson }
  | false =>
    have hfilters : r.activeFilters = [⟨f, wanted⟩] := by
      simp [SearchRequest.activeFilters, hr, hactive, homitted]
    have hclauses : r.activeFilters.mapM filterClause = .ok [equalityClause f v.toJson] := by
      rw [hfilters]
      exact mapM_cons_eq_ok.2 ⟨_, [], hclause, rfl, rfl⟩
    exact
      { active := by simp [hfilters]
        clauses := hclauses
        silent := fun hnone => by simp at hnone
        searches := fun s st => exists_search_of_clauses hclauses
        counts := fun s st => exists_count_of_clauses hclauses
        asks := by
          rintro _ ⟨⟩ s st h
          exact asks_of_single hclauses h }

/-- **Entities are found by what is stored of them.** When a field holds a value
that it can be compared with, and no other field under its stored name says
anything, then what is stored under the name is the value or nothing; and a
request whose only filter wants the value looks for what is stored. -/
theorem stored_agrees_with_filter {α : Type} [Entity α] {s : Schema} {entity : α}
    {r : SearchRequest} (hcompared : Compared f.kind v wanted) (hnullable : f.nullable = false)
    (hstored : isName f.storedName = true) (hlower : isName f.lowerName = true)
    (hf : f ∈ s.scalars) (hv : readField entity f.name = some v)
    (halone : HoldsAlone s entity f) (hr : r.filters = [⟨f, wanted⟩]) :
    ((toPropertiesBy s entity).get? f.storedName = none ∨
        (toPropertiesBy s entity).get? f.storedName = some v.toJson) ∧
      LooksFor r f ((toPropertiesBy s entity).get? f.storedName) := by
  have hjson : storedJson? entity f = if isOmitted f v then none else some v.toJson := by
    rw [storedJson?, hv, Option.bind_some]
  rw [get?_toPropertiesBy_of_holdsAlone hf halone, hjson]
  refine ⟨?_, looksFor_of_compared hcompared hnullable hstored hlower hr⟩
  split
  · exact .inl rfl
  · exact .inr rfl

/-- A sheet that says nothing but what state it is in. -/
def publishedSheet : Sheet where
  values := .ofList [("status", .enum "Published"), ("views", .integer 0), ("title", .string "")]

/-- The field that says it. -/
def statusField : Field :=
  .scalar "status" (.enum Sheet.statuses)

/-- The request for what is published. -/
def publishedRequest : SearchRequest where
  filters := [⟨statusField, .enum "Published"⟩]

theorem looksFor_publishedSheet :
    (toPropertiesBy (Entity.schema Sheet) publishedSheet).get? "status" =
        some (.str "Published") ∧
      LooksFor publishedRequest statusField (some (.str "Published")) := by
  have hcompared : Compared statusField.kind (.enum "Published") (.enum "Published") :=
    .enum Sheet.statuses "Published"
  have hfield : statusField ∈ (Entity.schema Sheet).scalars := by decide +kernel
  have hvalue : readField publishedSheet statusField.name = some (.enum "Published") := by
    decide +kernel
  have halone : HoldsAlone (Entity.schema Sheet) publishedSheet statusField := by decide +kernel
  have hstored : (toPropertiesBy (Entity.schema Sheet) publishedSheet).get? "status" =
      some (.str "Published") := by decide +kernel
  obtain ⟨-, hlooks⟩ := stored_agrees_with_filter (r := publishedRequest) hcompared rfl
    (by decide +kernel) (by decide +kernel) hfield hvalue halone rfl
  exact ⟨hstored, hstored ▸ hlooks⟩

end EntityGraph
