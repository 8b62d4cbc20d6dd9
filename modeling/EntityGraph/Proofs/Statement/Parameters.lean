import EntityGraph.Proofs.Bag
import EntityGraph.Proofs.Statement.Parts
/-!
# The parameters of a search

What each condition of a search is compared with. The condition of an active
filter mentions one parameter, named after the field (`mentions_filterClause`), and
the condition of free text mentions `text_search`. All of them are bound in one
bag, where the last value bound under a name stays, so what every condition
asks for is kept exactly when no name is to stand for two values and every
value has a stored form (`keepsValues_iff`).
-/

namespace EntityGraph

/-- The value that a filter asks for: texts that are looked for whatever their
case in small letters, and everything else as it is. -/
def Filter.soughtValue (f : Filter) : Json :=
  match f.value, f.field.link with
  | .text s, _ => .str (Text.lower s)
  | .oneOf texts, some _ => .ofTexts (texts.map Text.lower)
  | .oneOf texts, none => .ofTexts texts
  | .enum variant, _ => .str variant
  | .integer n, _ => .int n
  | .float x, _ => .float x
  | .boolean b, _ => .bool b
  | .datetime t, _ => .str t.toText

/-- A parameter can stand for every value but a number that is not finite. -/
def Filter.isExpressible (f : Filter) : Bool :=
  match f.value with
  | .float x => x.isFinite
  | _ => true

/-- The value of the free text of a request, if it is looked for anywhere. -/
def SearchRequest.soughtTexts (r : SearchRequest) (s : Schema) : List (String × Json) :=
  if (r.effectiveFields s).isEmpty then []
  else r.soughtText.toList.map fun sought => ("text_search", .str (Text.lower sought))

/-- The values that the conditions of a request ask for, each under the name of
its parameter. -/
def SearchRequest.soughtValues (r : SearchRequest) (s : Schema) : List (String × Json) :=
  r.soughtTexts s ++ r.activeFilters.map fun f => (f.parameter, f.soughtValue)

/-- No parameter of a request is to stand for two values. -/
def SearchRequest.IsUnambiguous (r : SearchRequest) (s : Schema) : Prop :=
  ∀ d ∈ r.soughtValues s, ∀ e ∈ r.soughtValues s, d.1 = e.1 → d.2 = e.2

instance (r : SearchRequest) (s : Schema) : Decidable (r.IsUnambiguous s) :=
  inferInstanceAs (Decidable (∀ d ∈ r.soughtValues s, _))

namespace Statement

open Text (join unlines)

/-! ### The parameters that a text mentions -/

/-- The parameters that a text mentions: after each dollar sign, the characters
up to the first one that is no part of a name. -/
def mentions : List Char → List String
  | [] => []
  | c :: cs =>
    if c = '$' then String.ofList (cs.takeWhile isNameChar) :: mentions cs else mentions cs

theorem mentions_append {cs : List Char} (h : '$' ∉ cs) (ds : List Char) :
    mentions (cs ++ ds) = mentions ds := by
  induction cs with
  | nil => rfl
  | cons c cs ih =>
    have hc : c ≠ '$' := fun hdollar => h (hdollar ▸ List.mem_cons_self)
    rw [List.cons_append, mentions, if_neg hc, ih fun hmem => h (List.mem_cons_of_mem c hmem)]

theorem mentions_eq_nil {cs : List Char} (h : '$' ∉ cs) : mentions cs = [] := by
  have hrest := mentions_append h []
  rwa [List.append_nil] at hrest

theorem dollar_not_mem_of_isName {name : String} (h : isName name = true) : '$' ∉ name.toList :=
  fun hmem => absurd (isNameChar_of_mem h hmem) (by decide)

/-- A text that ends with a parameter and has no other. -/
theorem mentions_parameter {cs : List Char} (hcs : '$' ∉ cs) {name : String}
    (hname : isName name = true) : mentions (cs ++ '$' :: name.toList) = [name] := by
  have hrun : name.toList.takeWhile isNameChar = name.toList := by
    have hstop : (name.toList ++ []).takeWhile isNameChar = name.toList :=
      Text.takeWhile_append_stop (fun c => isNameChar_of_mem hname)
        (Text.stopsBefore_nil isNameChar)
    rwa [List.append_nil] at hstop
  rw [mentions_append hcs, mentions, if_pos rfl, hrun, String.ofList_toList,
    mentions_eq_nil (dollar_not_mem_of_isName hname)]

/-! ### The condition of one filter -/

theorem parameter_storedClause (storedName : Identifier) (parameter : String)
    (value : FilterValue) : (storedClause storedName parameter value).parameter = parameter := by
  cases value <;> rfl

theorem mentions_storedClause (storedName : Identifier) {parameter : String}
    (hparameter : isName parameter = true) (value : FilterValue) :
    mentions (storedClause storedName parameter value).condition.toList = [parameter] := by
  have hproperty : '$' ∉ ("n." ++ storedName.text).toList := by
    simp [dollar_not_mem_of_isName storedName.isName]
  have hequal : mentions (("n." ++ storedName.text).toList ++ " = ".toList
      ++ '$' :: parameter.toList) = [parameter] :=
    mentions_parameter (by simpa using hproperty) hparameter
  cases value with
  | text s =>
    have hcontains : mentions ("toLower(".toList ++ ("n." ++ storedName.text).toList
        ++ ") CONTAINS ".toList ++ '$' :: parameter.toList) = [parameter] :=
      mentions_parameter (by simpa using hproperty) hparameter
    simpa [storedClause] using hcontains
  | oneOf texts =>
    have hin : mentions (("n." ++ storedName.text).toList ++ " IN ".toList
        ++ '$' :: parameter.toList) = [parameter] :=
      mentions_parameter (by simpa using hproperty) hparameter
    simpa [storedClause] using hin
  | enum _ | integer _ | float _ | boolean _ | datetime _ =>
    simpa [storedClause, storedClause.equal] using hequal

/-- **The condition of a filter** mentions the parameter of the filter alone. -/
theorem mentions_filterClause {f : Filter} {c : FilterClause} (h : filterClause f = .ok c) :
    c.parameter = f.parameter ∧ mentions c.condition.toList = [f.parameter] := by
  obtain ⟨hparameter, hlinked | hstored⟩ := filterClause_eq_ok h
  · obtain ⟨texts, link, -, -, hclause⟩ := hlinked
    obtain ⟨targetField, target, types, -, htarget, -, rfl⟩ := linkedClause_eq_ok hclause
    have hvariable : target.variableName = "target_" ++ f.parameter :=
      NodePattern.variableName_of_withLabel htarget
    have hproperty : '$' ∉ ("target_" ++ f.parameter ++ "." ++ targetField.text).toList := by
      simp [dollar_not_mem_of_isName hparameter, dollar_not_mem_of_isName targetField.isName]
    have hin : mentions ("toLower(".toList
        ++ ("target_" ++ f.parameter ++ "." ++ targetField.text).toList ++ ") IN ".toList
        ++ '$' :: f.parameter.toList) = [f.parameter] :=
      mentions_parameter (by simpa using hproperty) hparameter
    exact ⟨rfl, by simpa [hvariable] using hin⟩
  · obtain ⟨storedName, -, -, rfl⟩ := hstored
    exact ⟨parameter_storedClause _ _ _, mentions_storedClause storedName hparameter f.value⟩

/-- Where a parameter can stand for what a filter asks for, it is bound to
that. -/
theorem value_filterClause {f : Filter} {c : FilterClause} (h : filterClause f = .ok c)
    (hf : f.isExpressible = true) : c.value = f.soughtValue := by
  obtain ⟨-, hlinked | hstored⟩ := filterClause_eq_ok h
  · obtain ⟨texts, link, hvalue, hlink, hclause⟩ := hlinked
    obtain ⟨targetField, target, types, -, -, -, rfl⟩ := linkedClause_eq_ok hclause
    rw [Filter.soughtValue, hvalue, hlink]
  · obtain ⟨storedName, -, hunlinked, rfl⟩ := hstored
    cases hvalue : f.value with
    | text s => simp [storedClause, Filter.soughtValue, hvalue]
    | oneOf texts => simp [storedClause, Filter.soughtValue, hvalue, hunlinked texts hvalue]
    | float x =>
      have hfinite : x.isFinite = true := by simpa [Filter.isExpressible, hvalue] using hf
      simp [storedClause, storedClause.equal, Filter.soughtValue, hvalue, Json.ofFloat, hfinite]
    | enum _ | integer _ | boolean _ | datetime _ =>
      simp [storedClause, storedClause.equal, Filter.soughtValue, hvalue]

/-- No parameter is bound to a number that is not finite. -/
theorem isFinite_of_filterClause {f : Filter} {c : FilterClause} (h : filterClause f = .ok c)
    {x : Number.Binary64} (hx : c.value = .float x) : x.isFinite = true := by
  obtain ⟨-, hlinked | hstored⟩ := filterClause_eq_ok h
  · obtain ⟨texts, link, -, -, hclause⟩ := hlinked
    obtain ⟨targetField, target, types, -, -, -, rfl⟩ := linkedClause_eq_ok hclause
    simp [Json.ofTexts] at hx
  · obtain ⟨storedName, -, -, rfl⟩ := hstored
    cases hvalue : f.value with
    | float y =>
      rw [hvalue, storedClause, storedClause.equal, Json.ofFloat] at hx
      by_cases hfinite : y.isFinite = true
      · rw [if_pos hfinite] at hx
        exact Json.float.inj hx ▸ hfinite
      · simp [hfinite] at hx
    | _ => simp [hvalue, storedClause, storedClause.equal, Json.ofTexts] at hx

/-! ### What a statement keeps of a request -/

/-- One of the conditions that a statement joins in its line of conditions. -/
def Asks (st : Statement) (condition : String) : Prop :=
  ∃ before conditions after, condition ∈ conditions ∧
    st.text = unlines (before ++ ("WHERE " ++ join " AND " conditions) :: after)

/-- The condition of a filter stands in a statement and mentions one parameter,
and this is bound to what the filter asks for. -/
def KeepsFilter (st : Statement) (f : Filter) : Prop :=
  ∃ c parameter, filterClause f = .ok c ∧ st.Asks c.condition ∧
    mentions c.condition.toList = [parameter] ∧ st.parameters.get? parameter = some f.soughtValue

/-- If there is free text and a field to look for it in, the condition for it
stands in a statement, and its parameter is bound to the text in small
letters. -/
def KeepsText (st : Statement) (s : Schema) (r : SearchRequest) : Prop :=
  ∀ sought, r.soughtText = some sought → (r.effectiveFields s).isEmpty = false →
    (∃ fields, fields.map Identifier.text = r.effectiveFields s ∧ st.Asks (textCondition fields)) ∧
      st.parameters.get? "text_search" = some (.str (Text.lower sought))

/-- Every condition of a search stands in its statement. -/
theorem asks_of_mem {st : Statement} {first : String} {edges conditions rest : List String}
    (htext : st.text = unlines (first :: (edges ++ whereLines conditions) ++ rest))
    {condition : String} (hmem : condition ∈ conditions) : st.Asks condition := by
  have hline : whereLines conditions = ["WHERE " ++ join " AND " conditions] := by
    rw [whereLines, if_neg (by simpa using List.ne_nil_of_mem hmem)]
  refine ⟨first :: edges, conditions, rest, hmem, ?_⟩
  rw [htext, hline]
  simp

section Kept

variable {s : Schema} {r : SearchRequest} {st : Statement}

theorem mem_soughtTexts {e : String × Json} : e ∈ r.soughtTexts s ↔
    (r.effectiveFields s).isEmpty = false ∧
      ∃ sought, r.soughtText = some sought ∧ e = ("text_search", .str (Text.lower sought)) := by
  unfold SearchRequest.soughtTexts
  by_cases hempty : (r.effectiveFields s).isEmpty = true
  · simp [hempty]
  · simp [hempty, eq_comm]

/-- What is bound for free text is what it asks for. -/
theorem map_textClause {text : Option (String × String)} (h : textClause s r = .ok text) :
    text.toList.map (fun t => ("text_search", Json.str t.2)) = r.soughtTexts s := by
  unfold SearchRequest.soughtTexts
  obtain ⟨rfl, hnone | hempty⟩ | ⟨sought, fields, hsought, hfields, -, rfl⟩ := textClause_eq_ok h
  · simp [hnone]
  · simp [hempty]
  · simp [hsought, hfields]

/-- The condition of every active filter stands in the statement. -/
theorem exists_asked (h : search s r = .ok st ∨ count s r = .ok st) {f : Filter}
    (hf : f ∈ r.activeFilters) : ∃ c, filterClause f = .ok c ∧ st.Asks c.condition ∧
      mentions c.condition.toList = [f.parameter] := by
  obtain ⟨m, rest, hm, rfl⟩ := exists_matching h
  obtain ⟨text, clauses, label, -, hclauses, -, hlines, -⟩ := matching_eq_ok hm
  obtain ⟨c, hmem, hc⟩ := exists_mem_of_mapM hclauses hf
  refine ⟨c, hc, asks_of_mem (by rw [hlines]) ?_, (mentions_filterClause hc).2⟩
  exact List.mem_append_right _ (List.mem_map_of_mem hmem)

/-- And so does the condition of free text. -/
theorem exists_asked_text (h : search s r = .ok st ∨ count s r = .ok st) {sought : String}
    (hsought : r.soughtText = some sought) (hfields : (r.effectiveFields s).isEmpty = false) :
    ∃ fields, fields.map Identifier.text = r.effectiveFields s ∧
      st.Asks (textCondition fields) := by
  obtain ⟨m, rest, hm, rfl⟩ := exists_matching h
  obtain ⟨text, clauses, label, htext, -, -, hlines, -⟩ := matching_eq_ok hm
  obtain ⟨-, hnone | hempty⟩ | ⟨_, fields, -, -, hnames, rfl⟩ := textClause_eq_ok htext
  · simp [hsought] at hnone
  · simp [hfields] at hempty
  · refine ⟨fields, hnames, asks_of_mem (by rw [hlines]) ?_⟩
    simp

/-- The conditions all stand in the statement, so what is lost of a request is
lost among the parameters. -/
theorem keepsValues_iff_get? (h : search s r = .ok st ∨ count s r = .ok st) :
    (∀ f ∈ r.activeFilters, st.KeepsFilter f) ∧ st.KeepsText s r ↔
      ∀ e ∈ r.soughtValues s, st.parameters.get? e.1 = some e.2 := by
  constructor
  · rintro ⟨hfilters, htext⟩ e he
    rcases List.mem_append.1 he with he | he
    · obtain ⟨hfields, sought, hsought, rfl⟩ := mem_soughtTexts.1 he
      exact (htext sought hsought hfields).2
    · obtain ⟨f, hf, rfl⟩ := List.mem_map.1 he
      obtain ⟨c, parameter, hc, -, hmentions, hget⟩ := hfilters f hf
      rw [(mentions_filterClause hc).2] at hmentions
      obtain rfl := List.singleton_inj.1 hmentions
      exact hget
  · intro hkept
    constructor
    · intro f hf
      obtain ⟨c, hc, hasks, hmentions⟩ := exists_asked h hf
      exact ⟨c, f.parameter, hc, hasks, hmentions,
        hkept (f.parameter, f.soughtValue) (List.mem_append_right _ (List.mem_map_of_mem hf))⟩
    · intro sought hsought hfields
      have hmem := mem_soughtTexts.2 ⟨hfields, sought, hsought, rfl⟩
      exact ⟨exists_asked_text h hsought hfields, hkept _ (List.mem_append_left _ hmem)⟩

/-- When every value can be bound, what is bound is what is asked for. -/
theorem bound_eq_soughtValues {clauses : List FilterClause}
    (hclauses : r.activeFilters.mapM filterClause = .ok clauses)
    (hexpressible : ∀ f ∈ r.activeFilters, f.isExpressible = true) :
    (r.soughtTexts s ++ clauses.map fun c => (c.parameter, c.value)) = r.soughtValues s := by
  have hmap : clauses.map (fun c => (c.parameter, c.value)) =
      r.activeFilters.map fun f => (f.parameter, f.soughtValue) :=
    map_of_mapM (fun f hf c hc => Prod.ext (mentions_filterClause hc).1
      (value_filterClause hc (hexpressible f hf))) hclauses
  rw [hmap, SearchRequest.soughtValues]

/-- A number that is bound is finite, so a filter on another one is lost. -/
theorem isExpressible_of_get? {clauses : List FilterClause}
    (hclauses : r.activeFilters.mapM filterClause = .ok clauses)
    (hkept : ∀ e ∈ r.soughtValues s,
      (Bag.ofList (r.soughtTexts s ++ clauses.map fun c => (c.parameter, c.value))).get? e.1 =
        some e.2) : ∀ f ∈ r.activeFilters, f.isExpressible = true := by
  intro f hf
  obtain ⟨c, hmem, hc⟩ := exists_mem_of_mapM hclauses hf
  have hget := hkept (f.parameter, f.soughtValue) (List.mem_append_right _ (List.mem_map_of_mem hf))
  have hbound : (c.parameter, c.value) ∈
      r.soughtTexts s ++ clauses.map fun c => (c.parameter, c.value) :=
    List.mem_append_right _ (List.mem_map_of_mem hmem)
  obtain ⟨e, he, -, hlast⟩ := exists_lastValue? hbound (mentions_filterClause hc).1
  rw [Bag.get?_ofList, hlast] at hget
  unfold Filter.isExpressible
  split
  · next x hx =>
    -- The value that is bound last under the name is the number itself.
    have hvalue : e.2 = .float x := by
      rw [Filter.soughtValue, hx] at hget
      exact Option.some.inj hget
    rcases List.mem_append.1 he with he | he
    · obtain ⟨-, sought, -, rfl⟩ := mem_soughtTexts.1 he
      simp at hvalue
    · obtain ⟨d, hd, rfl⟩ := List.mem_map.1 he
      obtain ⟨g, -, hg⟩ := exists_of_mem_mapM hclauses hd
      exact isFinite_of_filterClause hg hvalue
  · rfl

/-- **Nothing that a request asks for is lost** in the statement of a page or
of the number of matches, exactly when no parameter is to stand for two values
and every value can be bound. -/
theorem keepsValues_iff (h : search s r = .ok st ∨ count s r = .ok st) :
    (∀ f ∈ r.activeFilters, st.KeepsFilter f) ∧ st.KeepsText s r ↔
      (∀ f ∈ r.activeFilters, f.isExpressible = true) ∧ r.IsUnambiguous s := by
  rw [keepsValues_iff_get? h]
  obtain ⟨m, rest, hm, rfl⟩ := exists_matching h
  obtain ⟨text, clauses, label, htext, hclauses, -, -, hparameters⟩ := matching_eq_ok hm
  rw [hparameters, map_textClause htext]
  constructor
  · intro hkept
    have hexpressible := isExpressible_of_get? hclauses hkept
    rw [bound_eq_soughtValues hclauses hexpressible] at hkept
    exact ⟨hexpressible, (Bag.forall_get?_ofList_iff _).1 hkept⟩
  · rintro ⟨hexpressible, hunambiguous⟩
    rw [bound_eq_soughtValues hclauses hexpressible]
    exact (Bag.forall_get?_ofList_iff _).2 hunambiguous

end Kept

/-- Notes with a rank and with what other nodes they are linked to. -/
def noteSchema : Schema :=
  .ofFields "Note" [.scalar "title" .string, .scalar "rank" .integer,
    ((Field.relationship "Liked_By" ["LIKE"]).targetField "name").directed .incoming]

/-- A request for free text, a rank and linked nodes, each under a name of its
own. -/
def plainRequest : SearchRequest where
  text := some " Graphs "
  filters := [⟨.scalar "rank" .integer, .integer 1⟩, ⟨.scalar "Title" .string, .text "LEAN"⟩,
    ⟨((Field.relationship "Liked_By" ["LIKE"]).targetField "name").directed .incoming,
      .oneOf ["Ada", "BOB"]⟩]

theorem keepsValues_plainRequest : ∃ st, count noteSchema plainRequest = .ok st ∧
    (∀ f ∈ plainRequest.activeFilters, st.KeepsFilter f) ∧ st.KeepsText noteSchema plainRequest := by
  have hok : (count noteSchema plainRequest).toOption.isSome = true := by decide
  have hexpressible : ∀ f ∈ plainRequest.activeFilters, f.isExpressible = true := by decide
  have hunambiguous : plainRequest.IsUnambiguous noteSchema := by decide
  obtain ⟨st, hst⟩ := exists_ok_of_isSome hok
  exact ⟨st, hst, (keepsValues_iff (.inr hst)).2 ⟨hexpressible, hunambiguous⟩⟩

/-- A request for two ranks at once. -/
def twoRanks : SearchRequest where
  filters := [⟨.scalar "rank" .integer, .integer 1⟩, ⟨.scalar "rank" .integer, .integer 2⟩]

/-- Of two ranks that are asked for under one name the first is lost. -/
theorem not_keepsFilter_twoRanks : ∃ st, search noteSchema twoRanks = .ok st ∧
    ∃ f ∈ twoRanks.activeFilters, ¬ st.KeepsFilter f := by
  have hok : (search noteSchema twoRanks).toOption.isSome = true := by decide
  have hbound : (search noteSchema twoRanks).toOption.bind (·.parameters.get? "rank") =
      some (.int 2) := by decide
  obtain ⟨st, hst⟩ := exists_ok_of_isSome hok
  rw [hst] at hbound
  refine ⟨st, hst, ⟨.scalar "rank" .integer, .integer 1⟩, by decide, ?_⟩
  rintro ⟨c, parameter, hc, -, hmentions, hget⟩
  rw [(mentions_filterClause hc).2] at hmentions
  obtain rfl := List.singleton_inj.1 hmentions
  have hrank : st.parameters.get? "rank" = some (.int 2) := hbound
  have hfirst : st.parameters.get? "rank" = some (.int 1) := hget
  simp [hfirst] at hrank

end Statement

end EntityGraph
