import EntityGraph.Proofs.Statement.Call
import EntityGraph.Proofs.Statement.Mentions
/-!
# Parameters mentioned and bound

A statement mentions exactly the parameters that it binds, whatever call makes
it (`mem_mentions_iff`): the database is never asked for a value that it was not
given, and is given none that it does not ask for. The law is proved call by
call: a line with a parameter mentions it after a mute start, and all other lines
are mute.
-/

namespace EntityGraph.Statement

open Text (unlines)

/-- A statement that mentions the parameters that it binds and no others. -/
def IsClosed (st : Statement) : Prop :=
  ∀ name, name ∈ mentions st.text.toList ↔ name ∈ st.parameters.keys

/-- Lines that mention the names of the values that are bound. -/
theorem isClosed_mk {lines : List String} {bound : List (String × Json)}
    (h : ∀ name, name ∈ lineMentions lines ↔ name ∈ bound.map Prod.fst) :
    IsClosed ⟨unlines lines, .ofList bound⟩ := fun name =>
  (mentions_unlines lines).symm ▸ (h name).trans (Bag.mem_keys_ofList bound name).symm

/-- One value that is bound, which the first line mentions. -/
theorem isClosed_single {first : String} {rest : List String} {parameter : String} {value : Json}
    (hfirst : mentions first.toList = [parameter]) (hrest : ∀ line ∈ rest, IsMute line) :
    IsClosed ⟨unlines (first :: rest), .single parameter value⟩ := by
  have hbound : ∀ name, name ∈ lineMentions (first :: rest) ↔
      name ∈ [(parameter, value)].map Prod.fst := by
    intro name
    rw [lineMentions_cons, hfirst, lineMentions_eq_nil hrest]
    rfl
  exact isClosed_mk hbound

/-! ### Lines that select nodes -/

theorem mentions_selectById (label : Identifier) : mentions (selectById label).toList = ["id"] := by
  have hmute : IsMute ("MATCH " ++ (labelled label).text) :=
    isMute_append.2 ⟨by decide, isMute_labelled label⟩
  rw [selectById, hmute.mentions_append]
  decide

theorem mentions_selectSource (label : Identifier) :
    mentions (selectSource label).toList = ["id"] := by
  have hnode : IsMute (NodePattern.text { variableName := "source", label := some label }) :=
    isMute_node (by decide : IsMute "source")
  have hmute : IsMute
      ("MATCH " ++ NodePattern.text { variableName := "source", label := some label }) :=
    isMute_append.2 ⟨by decide, hnode⟩
  rw [selectSource, hmute.mentions_append]
  decide

/-! ### One law per call -/

theorem isClosed_createNode {label : String} {properties : Bag Json} {st : Statement}
    (h : createNode label properties = .ok st) : IsClosed st := by
  obtain ⟨label, -, h⟩ := bind_eq_ok.1 h
  obtain rfl := pure_eq_ok.1 h
  have hmute : IsMute ("CREATE (n:" ++ label.text) := isMute_append.2 ⟨by decide, label.isMute⟩
  refine isClosed_single ?_ (by decide)
  rw [hmute.mentions_append]
  decide

theorem isClosed_findById {label id : String} {st : Statement} (h : findById label id = .ok st) :
    IsClosed st := by
  obtain ⟨label, -, h⟩ := bind_eq_ok.1 h
  obtain rfl := pure_eq_ok.1 h
  refine isClosed_single ?_ (by decide)
  rw [String.append_assoc, separates_and.mentions_append, mentions_selectById]
  decide

theorem isClosed_findByField {label storedName : String} {value : Json} {st : Statement}
    (h : findByField label storedName value = .ok st) : IsClosed st := by
  obtain ⟨label, -, h⟩ := bind_eq_ok.1 h
  obtain ⟨storedName, -, h⟩ := bind_eq_ok.1 h
  obtain rfl := pure_eq_ok.1 h
  have hmute : IsMute ("MATCH " ++ (labelled label).text ++ " WHERE n." ++ storedName.text) := by
    simp +decide [isMute_labelled, storedName.isMute]
  refine isClosed_single ?_ (by decide)
  rw [String.append_assoc, hmute.mentions_append]
  decide

theorem isClosed_updateNode {label id : String} {properties : Bag Json} {st : Statement}
    (h : updateNode label id properties = .ok st) : IsClosed st := by
  obtain ⟨label, -, h⟩ := bind_eq_ok.1 h
  obtain rfl := pure_eq_ok.1 h
  refine isClosed_mk fun name => ?_
  rw [lineMentions_cons, mentions_selectById]
  rfl

theorem isClosed_softDelete {label id : String} {st : Statement}
    (h : softDelete label id = .ok st) : IsClosed st := by
  obtain ⟨label, -, h⟩ := bind_eq_ok.1 h
  obtain rfl := pure_eq_ok.1 h
  exact isClosed_single (mentions_selectById label) (by decide)

theorem isClosed_detachDelete {label id : String} {st : Statement}
    (h : detachDelete label id = .ok st) : IsClosed st := by
  obtain ⟨label, -, h⟩ := bind_eq_ok.1 h
  obtain rfl := pure_eq_ok.1 h
  exact isClosed_single (mentions_selectById label) (by decide)

/-- A line that matches or makes a relationship of the node `source`. -/
theorem isMute_edgeLine (word variableName : String) (type : Identifier) (direction : Direction)
    (target : NodePattern) (hword : IsMute word ∧ IsMute variableName)
    (htarget : IsMute target.variableName) :
    IsMute (word ++ (edgeFromSource variableName type direction target).text) :=
  isMute_append.2 ⟨hword.1, isMute_edgeFromSource type direction hword.2 htarget⟩

/-- The lines that make a relationship to the node `target` and return something. -/
theorem lineMentions_merge (type : Identifier) (direction : Direction) {returning : String}
    (h : IsMute returning) : lineMentions
      ["MERGE " ++ (edgeFromSource "r" type direction { variableName := "target" }).text,
        returning] = [] := by
  have hmerge := isMute_edgeLine "MERGE " "r" type direction { variableName := "target" }
    (by decide) (by decide)
  exact lineMentions_eq_nil (List.forall_mem_cons.2 ⟨hmerge, List.forall_mem_singleton.2 h⟩)

theorem isClosed_mergeEdge {sourceId type targetId : String} {direction : Direction}
    {st : Statement} (h : mergeEdge sourceId type targetId direction = .ok st) : IsClosed st := by
  obtain ⟨type, -, h⟩ := bind_eq_ok.1 h
  obtain rfl := pure_eq_ok.1 h
  have hsource : mentions (selectNode "source" "$source_id").toList = ["source_id"] := by decide
  have htarget : mentions (selectNode "target" "$target_id").toList = ["target_id"] := by decide
  refine isClosed_mk fun name => ?_
  rw [lineMentions_cons, hsource, lineMentions_cons, htarget,
    lineMentions_merge type direction (by decide)]
  rfl

theorem isClosed_syncEdges {sourceId type : String} {targetIds : List String}
    {direction : Direction} {st : Statement}
    (h : syncEdges sourceId type targetIds direction = .ok st) : IsClosed st := by
  obtain ⟨type, -, h⟩ := bind_eq_ok.1 h
  obtain rfl := pure_eq_ok.1 h
  have hsource : mentions (selectNode "source" "$source_id").toList = ["source_id"] := by decide
  have hold := isMute_edgeLine "OPTIONAL MATCH " "old" type direction
    { variableName := "old_target" } (by decide) (by decide)
  -- The targets are mentioned twice: what leads elsewhere goes, the rest is made.
  have hkept : mentions "WHERE NOT toString(id(old_target)) IN $target_ids".toList =
      ["target_ids"] := by decide
  have hdelete : IsMute "DELETE old" := by decide
  have hwith : IsMute "WITH DISTINCT source" := by decide
  have hunwind : mentions "UNWIND $target_ids AS target_id".toList = ["target_ids"] := by decide
  have htarget : IsMute (selectNode "target" "target_id") := by decide
  refine isClosed_mk fun name => ?_
  rw [lineMentions_cons, hsource, lineMentions_cons, hold.mentions_eq_nil, lineMentions_cons,
    hkept, lineMentions_cons, hdelete.mentions_eq_nil, lineMentions_cons, hwith.mentions_eq_nil,
    lineMentions_cons, hunwind, lineMentions_cons, htarget.mentions_eq_nil,
    lineMentions_merge type direction (by decide)]
  simp

theorem isClosed_linkedNodes {sourceLabel id type : String} {direction : Direction}
    {targetLabel : Option String} {st : Statement}
    (h : linkedNodes sourceLabel id type direction targetLabel = .ok st) : IsClosed st := by
  obtain ⟨sourceLabel, -, h⟩ := bind_eq_ok.1 h
  obtain ⟨type, -, h⟩ := bind_eq_ok.1 h
  obtain ⟨target, htarget, h⟩ := bind_eq_ok.1 h
  obtain rfl := pure_eq_ok.1 h
  have hvariable : IsMute target.variableName := by
    rw [NodePattern.variableName_of_withLabel htarget]
    decide
  have hedge := isMute_edgeLine "MATCH " "" type direction target (by decide) hvariable
  exact isClosed_single (mentions_selectSource sourceLabel)
    (List.forall_mem_cons.2 ⟨hedge, by decide⟩)

theorem isClosed_edgesOf {sourceLabel id type : String} {direction : Direction} {st : Statement}
    (h : edgesOf sourceLabel id type direction = .ok st) : IsClosed st := by
  obtain ⟨sourceLabel, -, h⟩ := bind_eq_ok.1 h
  obtain ⟨type, -, h⟩ := bind_eq_ok.1 h
  obtain rfl := pure_eq_ok.1 h
  have hedge := isMute_edgeLine "MATCH " "r" type direction { variableName := "target" }
    (by decide) (by decide)
  exact isClosed_single (mentions_selectSource sourceLabel)
    (List.forall_mem_cons.2 ⟨hedge, by decide⟩)

/-- What comes after the selection of a search is mute. -/
theorem isClosed_matching {s : Schema} {r : SearchRequest} {m : Matching}
    (h : matching s r = .ok m) {rest : List String} (hrest : ∀ line ∈ rest, IsMute line) :
    IsClosed ⟨unlines (m.lines ++ rest), m.parameters⟩ := by
  intro name
  rw [mentions_unlines, lineMentions_append, lineMentions_eq_nil hrest, List.append_nil]
  exact mem_lineMentions_matching h name

theorem isClosed_results {s : Schema} {r : SearchRequest} {skip limit : UInt64}
    {withLinks : Bool} {st : Statement} (h : results s r skip limit withLinks = .ok st) :
    IsClosed st := by
  obtain ⟨m, projected, ordered, hm, hprojected, hordered, rfl⟩ := results_eq_ok h
  exact isClosed_matching hm (List.forall_mem_append.2
    ⟨isMute_projection hprojected, isMute_pageLines hordered skip limit⟩)

theorem isClosed_count {s : Schema} {r : SearchRequest} {st : Statement}
    (h : count s r = .ok st) : IsClosed st := by
  obtain ⟨m, hm, h⟩ := bind_eq_ok.1 h
  obtain rfl := pure_eq_ok.1 h
  exact isClosed_matching hm (List.forall_mem_singleton.2 (by decide))

/-! ### Every call -/

/-- **A statement mentions the parameters that it binds and no others,** whatever
call makes it. -/
theorem mem_mentions_iff {c : Call} {st : Statement} (h : c.statement = .ok st) (name : String) :
    name ∈ mentions st.text.toList ↔ name ∈ st.parameters.keys := by
  have hclosed : IsClosed st := by
    cases c with
    | createNode => exact isClosed_createNode h
    | findById => exact isClosed_findById h
    | findByField => exact isClosed_findByField h
    | updateNode => exact isClosed_updateNode h
    | softDelete => exact isClosed_softDelete h
    | detachDelete => exact isClosed_detachDelete h
    | mergeEdge => exact isClosed_mergeEdge h
    | syncEdges => exact isClosed_syncEdges h
    | linkedNodes => exact isClosed_linkedNodes h
    | edgesOf => exact isClosed_edgesOf h
    | search => exact isClosed_results h
    | count => exact isClosed_count h
    | textSearch => exact isClosed_results h
  exact hclosed name

theorem mem_mentions_plainSearch : ∃ st, (Call.search noteSchema plainRequest).statement = .ok st ∧
    ∀ name, name ∈ mentions st.text.toList ↔ name ∈ st.parameters.keys := by
  have hok : (Call.search noteSchema plainRequest).statement.toOption.isSome = true := by decide
  obtain ⟨st, hst⟩ := exists_ok_of_isSome hok
  exact ⟨st, hst, mem_mentions_iff hst⟩

end EntityGraph.Statement
