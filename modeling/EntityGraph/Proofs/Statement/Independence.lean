import EntityGraph.Proofs.Statement.Call
import EntityGraph.Proofs.Outcome
import EntityGraph.Proofs.Text.Visible
import Mathlib.Data.List.Forall2
/-!
# Values and the text of a statement

Two calls that differ in nothing but values make statements of the same text,
or fail in the same way (`text_eq_of_isAlike`). Of the values of a search only
two things are seen in the text: whether there is free text, and which filters
are active. So requests are alike when they agree on these, whatever the values
are.
-/

namespace EntityGraph

/-- Two values of filters have the same form. -/
def FilterValue.IsAlike : FilterValue → FilterValue → Prop
  | .text _, .text _ | .enum _, .enum _ | .integer _, .integer _ | .float _, .float _
  | .boolean _, .boolean _ | .datetime _, .datetime _ | .oneOf _, .oneOf _ => True
  | _, _ => False

/-- Two filters differ in their values alone, and both add a condition or
neither does. -/
structure Filter.IsAlike (f g : Filter) : Prop where
  field : f.field = g.field
  value : f.value.IsAlike g.value
  isActive : f.isActive = g.isActive

/-- Whether a request has a text that is not blank. -/
def SearchRequest.hasText (r : SearchRequest) : Bool :=
  r.text.any fun text => !Text.isBlank text

/-- Two requests differ in the free text and in the values of filters alone,
and both have a text that is not blank or neither does. -/
structure SearchRequest.IsAlike (r q : SearchRequest) : Prop where
  others : q = { r with text := q.text, filters := q.filters }
  hasText : r.hasText = q.hasText
  filters : List.Forall₂ Filter.IsAlike r.filters q.filters

namespace Statement

/-- **Two calls differ in values alone:** in identifiers of nodes, in
properties, in the value that is looked up, and in what a search looks for. -/
inductive Call.IsAlike : Call → Call → Prop
  | createNode (label : String) (properties properties' : Bag Json) :
    IsAlike (.createNode label properties) (.createNode label properties')
  | findById (label id id' : String) : IsAlike (.findById label id) (.findById label id')
  | findByField (label storedName : String) (value value' : Json) :
    IsAlike (.findByField label storedName value) (.findByField label storedName value')
  | updateNode (label id id' : String) (properties properties' : Bag Json) :
    IsAlike (.updateNode label id properties) (.updateNode label id' properties')
  | softDelete (label id id' : String) : IsAlike (.softDelete label id) (.softDelete label id')
  | detachDelete (label id id' : String) :
    IsAlike (.detachDelete label id) (.detachDelete label id')
  | mergeEdge (sourceId sourceId' type targetId targetId' : String) (direction : Direction) :
    IsAlike (.mergeEdge sourceId type targetId direction)
      (.mergeEdge sourceId' type targetId' direction)
  | syncEdges (sourceId sourceId' type : String) (targetIds targetIds' : List String)
      (direction : Direction) :
    IsAlike (.syncEdges sourceId type targetIds direction)
      (.syncEdges sourceId' type targetIds' direction)
  | linkedNodes (sourceLabel id id' type : String) (direction : Direction)
      (targetLabel : Option String) :
    IsAlike (.linkedNodes sourceLabel id type direction targetLabel)
      (.linkedNodes sourceLabel id' type direction targetLabel)
  | edgesOf (sourceLabel id id' type : String) (direction : Direction) :
    IsAlike (.edgesOf sourceLabel id type direction) (.edgesOf sourceLabel id' type direction)
  | search (s : Schema) {r q : SearchRequest} (h : r.IsAlike q) :
    IsAlike (.search s r) (.search s q)
  | count (s : Schema) {r q : SearchRequest} (h : r.IsAlike q) : IsAlike (.count s r) (.count s q)
  | textSearch (s : Schema) {term term' : String} (h : Text.isBlank term = Text.isBlank term')
      (skip limit : Option UInt64) :
    IsAlike (.textSearch s term skip limit) (.textSearch s term' skip limit)

/-! ### Filters -/

/-- Two lists of computations agree on an image of their results when they agree
one by one. -/
theorem map_mapM_congr {ε α β γ : Type} {f : α → Except ε β} {p : β → γ} {R : α → α → Prop}
    {xs ys : List α} (h : List.Forall₂ R xs ys) (hR : ∀ x y, R x y → (f x).map p = (f y).map p) :
    (xs.mapM f).map (List.map p) = (ys.mapM f).map (List.map p) := by
  induction h with
  | nil => rfl
  | cons hxy _ ih =>
    rw [List.mapM_cons, List.mapM_cons]
    refine map_bind_congr (hR _ _ hxy) fun a b hab => ?_
    refine map_bind_congr ih fun as bs habs => ?_
    simp only [pure, Except.pure, Except.map, List.map_cons, hab, habs]

/-- The parts of what a filter adds that stand in the text. -/
def FilterClause.written (c : FilterClause) : Option String × String :=
  (c.matching, c.condition)

theorem written_linkedClause (field : Field) (link : Link) (parameter : String)
    (texts texts' : List String) :
    (linkedClause field link parameter texts).map FilterClause.written =
      (linkedClause field link parameter texts').map FilterClause.written := by
  unfold linkedClause
  split
  · refine map_bind_congr_right fun targetField => ?_
    refine map_bind_congr_right fun target => ?_
    exact map_bind_congr_right fun types => rfl
  · rfl

theorem written_filterClause {f g : Filter} (h : f.IsAlike g) :
    (filterClause f).map FilterClause.written = (filterClause g).map FilterClause.written := by
  obtain ⟨field, value⟩ := f
  obtain ⟨field', value'⟩ := g
  obtain rfl : field = field' := h.field
  have hvalue : value.IsAlike value' := h.value
  refine map_bind_congr_right fun parameter => ?_
  -- Off the diagonal the values are not alike; on it only a list of texts may
  -- be about linked nodes.
  cases value <;> cases value' <;>
    first
    | exact hvalue.elim
    | exact map_bind_congr_right fun storedName => rfl
    | skip
  next texts texts' =>
    cases hlink : field.link with
    | none => exact map_bind_congr_right fun storedName => rfl
    | some link => exact written_linkedClause field link parameter.text texts texts'

theorem written_filterClauses {r q : SearchRequest} (h : r.IsAlike q) :
    (r.activeFilters.mapM filterClause).map (List.map FilterClause.written) =
      (q.activeFilters.mapM filterClause).map (List.map FilterClause.written) := by
  have hactive : List.Forall₂ Filter.IsAlike r.activeFilters q.activeFilters := by
    refine List.rel_filter (fun f g hfg => ?_) h.filters
    exact iff_of_eq (congrArg (· = true) hfg.isActive)
  exact map_mapM_congr hactive fun f g hfg => written_filterClause hfg

/-! ### Free text -/

theorem isSome_soughtText (r : SearchRequest) : r.soughtText.isSome = r.hasText := by
  cases htext : r.text with
  | none => simp [SearchRequest.soughtText, SearchRequest.hasText, htext]
  | some text =>
    cases hblank : Text.isBlank text <;>
      simp [SearchRequest.soughtText, SearchRequest.hasText, htext, hblank, Text.isEmpty_trim]

theorem effectiveFields_eq {r q : SearchRequest} (h : r.IsAlike q) (s : Schema) :
    q.effectiveFields s = r.effectiveFields s := by
  rw [h.others]
  rfl

/-- Of the free text only one thing is seen: whether there is any. -/
theorem written_textClause {r q : SearchRequest} (h : r.IsAlike q) (s : Schema) :
    (textClause s r).map (Option.map Prod.fst) = (textClause s q).map (Option.map Prod.fst) := by
  have hsome : r.soughtText.isSome = q.soughtText.isSome := by
    rw [isSome_soughtText, isSome_soughtText, h.hasText]
  unfold textClause
  cases hr : r.soughtText with
  | none =>
    cases hq : q.soughtText with
    | none => rfl
    | some sought => simp [hr, hq] at hsome
  | some sought =>
    cases hq : q.soughtText with
    | none => simp [hr, hq] at hsome
    | some sought' =>
      show (if _ then _ else _ : Except _ _).map _ = (if _ then _ else _ : Except _ _).map _
      rw [effectiveFields_eq h s]
      split
      · rfl
      · cases (r.effectiveFields s).mapM (Identifier.ofText "searchable field") with
        | error e => rfl
        | ok names => rfl

/-! ### Searches -/

/-- The lines that select entities depend on no value. -/
theorem lines_matching {r q : SearchRequest} (h : r.IsAlike q) (s : Schema) :
    (matching s r).map Matching.lines = (matching s q).map Matching.lines := by
  refine map_bind_congr (written_textClause h s) fun text text' htext => ?_
  refine map_bind_congr (written_filterClauses h) fun clauses clauses' hclauses => ?_
  refine map_bind_congr_right fun label => ?_
  have hconditions : clauses.map (·.condition) = clauses'.map (·.condition) := by
    have hwritten := congrArg (List.map Prod.snd) hclauses
    rwa [List.map_map, List.map_map] at hwritten
  have hmatchings : clauses.filterMap (·.matching) = clauses'.filterMap (·.matching) := by
    have hwritten := congrArg (List.filterMap Prod.fst) hclauses
    rwa [List.filterMap_map, List.filterMap_map] at hwritten
  have htexts : text.toList.map Prod.fst = text'.toList.map Prod.fst := by
    rw [← Option.toList_map, ← Option.toList_map, htext]
  have hdeleted : q.includeDeleted = r.includeDeleted := by rw [h.others]
  show Except.ok _ = Except.ok _
  dsimp only
  rw [hconditions, hmatchings, htexts, hdeleted]

theorem text_results {s : Schema} {r q : SearchRequest} (h : r.IsAlike q) (skip limit : UInt64)
    (withLinks : Bool) :
    (results s r skip limit withLinks).map Statement.text =
      (results s q skip limit withLinks).map Statement.text := by
  have horder : orderLines q = orderLines r := by
    rw [h.others]
    rfl
  refine map_bind_congr (lines_matching h s) fun m m' hlines => ?_
  refine map_bind_congr_right fun projected => ?_
  rw [horder]
  refine map_bind_congr_right fun ordered => ?_
  show Except.ok _ = Except.ok _
  dsimp only
  rw [hlines]

theorem text_count {s : Schema} {r q : SearchRequest} (h : r.IsAlike q) :
    (count s r).map Statement.text = (count s q).map Statement.text := by
  refine map_bind_congr (lines_matching h s) fun m m' hlines => ?_
  show Except.ok _ = Except.ok _
  dsimp only
  rw [hlines]

/-- Requests for two texts are alike when both are blank or neither is. -/
theorem isAlike_withText (r : SearchRequest) (hfilters : r.filters = []) {term term' : String}
    (h : Text.isBlank term = Text.isBlank term') :
    (r.withText term).IsAlike (r.withText term') where
  others := rfl
  hasText := congrArg (!·) h
  filters := by
    show List.Forall₂ Filter.IsAlike r.filters r.filters
    rw [hfilters]
    exact .nil

/-! ### All statements -/

/-- **No value is seen in the text of a statement:** two calls that differ in
values alone make statements of one text, or fail in the same way. -/
theorem text_eq_of_isAlike {c d : Call} (h : c.IsAlike d) :
    c.statement.map Statement.text = d.statement.map Statement.text := by
  cases h with
  | createNode | findById | updateNode | softDelete | detachDelete | mergeEdge | syncEdges =>
    exact map_bind_congr_right fun name => rfl
  | findByField | edgesOf =>
    exact map_bind_congr_right fun label => map_bind_congr_right fun name => rfl
  | linkedNodes =>
    exact map_bind_congr_right fun label => map_bind_congr_right fun type =>
      map_bind_congr_right fun target => rfl
  | @search s r q h =>
    have hskip : q.skip = r.skip := by
      rw [h.others]
      rfl
    have hsize : q.pageSize = r.pageSize := by rw [h.others]
    show (results s r r.skip r.pageSize.toUInt64 true).map Statement.text =
      (results s q q.skip q.pageSize.toUInt64 true).map Statement.text
    rw [hskip, hsize]
    exact text_results h _ _ _
  | count s h => exact text_count h
  | textSearch s h skip limit =>
    exact text_results (isAlike_withText _ rfl h) _ _ _

/-- A request for a text and a rank among what some persons like. -/
def likedRequest (text : String) (rank : Int) (persons : List String) : SearchRequest where
  text := some text
  filters := [⟨.scalar "rank" .integer, .integer rank⟩,
    ⟨(Field.relationship "liked_by" ["LIKE"]).targetField "name", .oneOf persons⟩]

theorem text_eq_likedRequest :
    let plain := likedRequest "Lean" 1 ["Ada"]
    let hostile := likedRequest "') DETACH DELETE n //" (-7) ["Bob", "' OR true"]
    plain.IsAlike hostile ∧
      (Call.search (.ofFields "Note" [.scalar "title" .string]) plain).statement.map text =
        (Call.search (.ofFields "Note" [.scalar "title" .string]) hostile).statement.map text := by
  intro plain hostile
  have hrank : Filter.IsAlike ⟨.scalar "rank" .integer, .integer 1⟩
      ⟨.scalar "rank" .integer, .integer (-7)⟩ := ⟨rfl, trivial, by decide⟩
  have hpersons : Filter.IsAlike
      ⟨(Field.relationship "liked_by" ["LIKE"]).targetField "name", .oneOf ["Ada"]⟩
      ⟨(Field.relationship "liked_by" ["LIKE"]).targetField "name",
        .oneOf ["Bob", "' OR true"]⟩ := ⟨rfl, trivial, by decide⟩
  have h : plain.IsAlike hostile := ⟨rfl, by decide, .cons hrank (.cons hpersons .nil)⟩
  exact ⟨h, text_eq_of_isAlike (.search _ h)⟩

end Statement
end EntityGraph
