import EntityGraph.Proofs.Statement.SafeClauses
import EntityGraph.Statement.Edge
/-!
# Safe statements

The text of every statement is safe, one law for each way to make one. Each law
names the fixed words of its statement, so that nothing but these and the names
that were checked stands in the text.
-/

namespace EntityGraph.Statement

variable {P : String → Prop}

/-- The fixed words of the lines that select a node by its identifier. -/
def selectionWords : List String :=
  ["MATCH", "WHERE", "id", "toInteger"]

/-- The fixed words of the text that stands for the time. -/
def timeWords : List String :=
  ["toString", "datetime"]

/-- The fixed words of the condition that keeps deleted nodes out. -/
def guardWords : List String :=
  ["n", "deleted_at", "IS", "NULL"]

/-! ### Nodes -/

/-- A line that selects a node by its identifier. -/
theorem isSafe_selection (hfixed : ∀ w ∈ selectionWords, P w) {node : NodePattern}
    {variableName id : String} (hnode : IsSafe P node.text.toList)
    (hvariable : IsSafe P variableName.toList) (hid : IsSafe P id.toList) :
    IsSafe P ("MATCH " ++ node.text ++ " WHERE id(" ++ variableName
      ++ ") = toInteger(" ++ id ++ ")").toList := by
  have hequal := (isSafe_fixed hfixed " = toInteger" rfl (by decide)).parens hid isSafe_nil
  have hwhere := (isSafe_fixed hfixed "WHERE id" rfl (by decide)).parens hvariable hequal
  have hline := (isSafe_fixed hfixed "MATCH" rfl (by decide)).space (hnode.space hwhere)
  simpa using hline

theorem isSafe_labelled (hn : P "n") {label : Identifier} (hlabel : P label.text) :
    IsSafe P (labelled label).text.toList := by
  have hvariable : IsSafe P "n".toList := isSafe_name (by decide) hn
  refine isSafe_node hvariable fun i hi => ?_
  obtain rfl := Option.some.inj hi
  exact hlabel

theorem isSafe_selectById (hfixed : ∀ w ∈ selectionWords, P w) (hn : P "n") {label : Identifier}
    (hlabel : P label.text) : IsSafe P (selectById label).toList := by
  have hid : IsSafe P "$id".toList := isSafe_fixed hfixed "$id" rfl (by decide)
  have h := isSafe_selection hfixed (isSafe_labelled hn hlabel)
    (isSafe_name (by decide) hn) hid
  simpa [selectById] using h

theorem isSafe_selectNode (hfixed : ∀ w ∈ selectionWords, P w) {variableName id : String}
    (hvariable : IsSafe P variableName.toList) (hid : IsSafe P id.toList) :
    IsSafe P (selectNode variableName id).toList := by
  have hnode : IsSafe P (NodePattern.text { variableName }).toList :=
    isSafe_node hvariable (by simp)
  have h := isSafe_selection hfixed hnode hvariable hid
  simpa [selectNode, NodePattern.text] using h

theorem isSafe_selectSource (hfixed : ∀ w ∈ selectionWords, P w) (hsource : P "source")
    {label : Identifier} (hlabel : P label.text) : IsSafe P (selectSource label).toList := by
  have hvariable : IsSafe P "source".toList := isSafe_name (by decide) hsource
  have hid : IsSafe P "$id".toList := isSafe_fixed hfixed "$id" rfl (by decide)
  have hnode : IsSafe P
      (NodePattern.text { variableName := "source", label := some label }).toList := by
    refine isSafe_node hvariable fun i hi => ?_
    obtain rfl := Option.some.inj hi
    exact hlabel
  have h := isSafe_selection hfixed hnode hvariable hid
  simpa [selectSource] using h

/-- A relationship of one type from the node `source`. -/
theorem isSafe_edgeFromSource {variableName : String} {type : Identifier} {target : NodePattern}
    (direction : Direction) (hsource : P "source") (hvariable : IsSafe P variableName.toList)
    (htype : P type.text) (htarget : IsSafe P target.text.toList) :
    IsSafe P (edgeFromSource variableName type direction target).text.toList := by
  have hnode : IsSafe P (NodePattern.text { variableName := "source" }).toList := by
    have hname : IsSafe P "source".toList := isSafe_name (by decide) hsource
    exact isSafe_node hname (by simp)
  exact isSafe_edge hnode hvariable (List.forall_mem_singleton.2 htype) htarget

/-! ### Statements of nodes -/

/-- A name that was checked. -/
theorem explained_of_ofText {what value : String} {i : Identifier}
    (h : Identifier.ofText what value = .ok i) (hP : isName value = true → P value) : P i.text := by
  rw [Identifier.text_of_ofText h]
  exact hP (Identifier.isName_of_ofText h)

/-- A statement that selects a node by its identifier and goes on with fixed
lines. -/
theorem isSafe_selected {fixed : List String} (hfixed : ∀ w ∈ fixed, P w)
    (hselection : selectionWords ⊆ fixed) (hn : "n" ∈ fixed) {label : Identifier}
    (hlabel : P label.text) {lines : List String}
    (hlines : ∀ line ∈ lines, IsSafe (· ∈ fixed) line.toList) :
    IsSafe P (Text.unlines (selectById label :: lines)).toList := by
  have hselect := isSafe_selectById (fun w hw => hfixed w (hselection hw)) (hfixed "n" hn) hlabel
  exact isSafe_unlines (List.forall_mem_cons.2
    ⟨hselect, fun line hline => (hlines line hline).mono hfixed⟩)

/-- The fixed words of a statement that creates a node. -/
def createWords : List String :=
  timeWords ++ ["CREATE", "n", "properties", "SET", "created_at", "RETURN"]

theorem isSafe_createNode {label : String} {properties : Bag Json} {st : Statement}
    (h : createNode label properties = .ok st) (hfixed : ∀ w ∈ createWords, P w)
    (hlabel : isName label = true → P label) : IsSafe P st.text.toList := by
  obtain ⟨i, hi, h⟩ := bind_eq_ok.1 h
  obtain rfl := pure_eq_ok.1 h
  have hname := isSafe_identifier (explained_of_ofText hi hlabel)
  refine isSafe_unlines (List.forall_mem_cons.2 ⟨?_, forall_mem_pair ?_ ?_⟩)
  · have hinner := (isSafe_fixed hfixed "n" rfl (by decide)).mark ':' (by decide)
      (hname.space (isSafe_fixed hfixed "$properties" rfl (by decide)))
    have hline := (isSafe_fixed hfixed "CREATE " rfl (by decide)).parens hinner isSafe_nil
    simpa using hline
  · have hstamp : IsSafe (· ∈ createWords) ("SET n.created_at = " ++ now).toList := by decide
    exact hstamp.mono hfixed
  · exact isSafe_fixed hfixed _ rfl (by decide)

/-- The fixed words of a statement that looks up a node by its identifier. -/
def findWords : List String :=
  selectionWords ++ guardWords ++ ["AND", "RETURN"]

theorem isSafe_findById {label id : String} {st : Statement} (h : findById label id = .ok st)
    (hfixed : ∀ w ∈ findWords, P w) (hlabel : isName label = true → P label) :
    IsSafe P st.text.toList := by
  obtain ⟨i, hi, h⟩ := bind_eq_ok.1 h
  obtain rfl := pure_eq_ok.1 h
  have hselect := isSafe_selectById (fun w hw => hfixed w (by simp [findWords, hw]))
    (hfixed "n" (by decide)) (explained_of_ofText hi hlabel)
  refine isSafe_unlines (forall_mem_pair ?_ (isSafe_fixed hfixed _ rfl (by decide)))
  have hguard : IsSafe (· ∈ findWords) ("AND " ++ notDeleted).toList := by decide
  simpa using hselect.space (hguard.mono hfixed)

/-- The fixed words of a statement that looks up a node by a stored value. -/
def lookUpWords : List String :=
  guardWords ++ ["MATCH", "WHERE", "field_value", "AND", "RETURN", "LIMIT", "1"]

theorem isSafe_findByField {label storedName : String} {value : Json} {st : Statement}
    (h : findByField label storedName value = .ok st) (hfixed : ∀ w ∈ lookUpWords, P w)
    (hlabel : isName label = true → P label)
    (hstored : isName storedName = true → P storedName) : IsSafe P st.text.toList := by
  obtain ⟨i, hi, h⟩ := bind_eq_ok.1 h
  obtain ⟨j, hj, h⟩ := bind_eq_ok.1 h
  obtain rfl := pure_eq_ok.1 h
  refine isSafe_unlines (List.forall_mem_cons.2 ⟨?_, forall_mem_pair
    (isSafe_fixed hfixed _ rfl (by decide)) (isSafe_fixed hfixed _ rfl (by decide))⟩)
  have hnode := isSafe_labelled (hfixed "n" (by decide)) (explained_of_ofText hi hlabel)
  have hproperty := (isSafe_fixed hfixed "WHERE n" rfl (by decide)).mark '.' (by decide)
    (isSafe_identifier (explained_of_ofText hj hstored))
  have hrest : IsSafe (· ∈ lookUpWords) ("= $field_value AND " ++ notDeleted).toList := by decide
  have hline := (isSafe_fixed hfixed "MATCH" rfl (by decide)).space
    (hnode.space (hproperty.space (hrest.mono hfixed)))
  simpa using hline

/-- The fixed words of a statement that changes a node. -/
def updateWords : List String :=
  selectionWords ++ timeWords ++ ["n", "SET", "properties", "updated_at", "RETURN"]

theorem isSafe_updateNode {label id : String} {properties : Bag Json} {st : Statement}
    (h : updateNode label id properties = .ok st) (hfixed : ∀ w ∈ updateWords, P w)
    (hlabel : isName label = true → P label) : IsSafe P st.text.toList := by
  obtain ⟨i, hi, h⟩ := bind_eq_ok.1 h
  obtain rfl := pure_eq_ok.1 h
  exact isSafe_selected hfixed (by decide) (by decide) (explained_of_ofText hi hlabel) (by decide)

/-- The fixed words of a statement that marks a node as deleted. -/
def softDeleteWords : List String :=
  selectionWords ++ timeWords ++ ["n", "SET", "deleted_at", "RETURN", "AS"]

theorem isSafe_softDelete {label id : String} {st : Statement} (h : softDelete label id = .ok st)
    (hfixed : ∀ w ∈ softDeleteWords, P w) (hlabel : isName label = true → P label) :
    IsSafe P st.text.toList := by
  obtain ⟨i, hi, h⟩ := bind_eq_ok.1 h
  obtain rfl := pure_eq_ok.1 h
  exact isSafe_selected hfixed (by decide) (by decide) (explained_of_ofText hi hlabel) (by decide)

/-- The fixed words of a statement that removes a node. -/
def detachDeleteWords : List String :=
  selectionWords ++ ["n", "DETACH", "DELETE", "RETURN", "count", "AS", "deleted_count"]

theorem isSafe_detachDelete {label id : String} {st : Statement}
    (h : detachDelete label id = .ok st) (hfixed : ∀ w ∈ detachDeleteWords, P w)
    (hlabel : isName label = true → P label) : IsSafe P st.text.toList := by
  obtain ⟨i, hi, h⟩ := bind_eq_ok.1 h
  obtain rfl := pure_eq_ok.1 h
  exact isSafe_selected hfixed (by decide) (by decide) (explained_of_ofText hi hlabel) (by decide)

/-! ### Statements of relationships -/

/-- A variable that is a fixed word stands in a pattern by itself. -/
theorem isSafe_fixedNode {variableName : String} (hname : isName variableName = true)
    (hword : P variableName) : IsSafe P (NodePattern.text { variableName }).toList :=
  isSafe_node (isSafe_name hname hword) (by simp)

/-- The fixed words of a statement that creates a relationship. -/
def mergeWords : List String :=
  selectionWords ++ ["source", "source_id", "target", "target_id", "MERGE", "r", "RETURN"]

theorem isSafe_mergeEdge {sourceId type targetId : String} {direction : Direction} {st : Statement}
    (h : mergeEdge sourceId type targetId direction = .ok st) (hfixed : ∀ w ∈ mergeWords, P w)
    (htype : isName type = true → P type) : IsSafe P st.text.toList := by
  obtain ⟨i, hi, h⟩ := bind_eq_ok.1 h
  obtain rfl := pure_eq_ok.1 h
  have hselection : ∀ w ∈ selectionWords, P w := fun w hw => hfixed w (by simp [mergeWords, hw])
  have hword (text : String) {cs : List Char} (htext : String.ofList cs = text)
      (h : IsSafe (· ∈ mergeWords) cs) : IsSafe P text.toList := isSafe_fixed hfixed text htext h
  have hedge := isSafe_edgeFromSource direction (hfixed "source" (by decide))
    (hword "r" rfl (by decide)) (explained_of_ofText hi htype)
    (isSafe_fixedNode (by decide) (hfixed "target" (by decide)))
  have hmerge := (hword "MERGE" rfl (by decide)).space hedge
  refine isSafe_unlines ?_
  simp only [List.forall_mem_cons, List.not_mem_nil, false_implies, implies_true, and_true]
  refine ⟨?_, ?_, ?_, hword _ rfl (by decide)⟩
  · exact isSafe_selectNode hselection (hword "source" rfl (by decide))
      (hword "$source_id" rfl (by decide))
  · exact isSafe_selectNode hselection (hword "target" rfl (by decide))
      (hword "$target_id" rfl (by decide))
  · simpa using hmerge

/-- The fixed words of a statement that changes what a node is related to. -/
def syncWords : List String :=
  selectionWords ++ ["source", "source_id", "OPTIONAL", "old", "old_target", "NOT", "toString",
    "IN", "target_ids", "DELETE", "WITH", "DISTINCT", "UNWIND", "AS", "target_id", "target",
    "MERGE", "r", "RETURN", "count", "synced_count"]

theorem isSafe_syncEdges {sourceId type : String} {targetIds : List String} {direction : Direction}
    {st : Statement} (h : syncEdges sourceId type targetIds direction = .ok st)
    (hfixed : ∀ w ∈ syncWords, P w) (htype : isName type = true → P type) :
    IsSafe P st.text.toList := by
  obtain ⟨i, hi, h⟩ := bind_eq_ok.1 h
  obtain rfl := pure_eq_ok.1 h
  have hselection : ∀ w ∈ selectionWords, P w := fun w hw => hfixed w (by simp [syncWords, hw])
  have hword (text : String) {cs : List Char} (htext : String.ofList cs = text)
      (h : IsSafe (· ∈ syncWords) cs) : IsSafe P text.toList := isSafe_fixed hfixed text htext h
  have hold := (hword "OPTIONAL MATCH" rfl (by decide)).space
    (isSafe_edgeFromSource direction (hfixed "source" (by decide)) (hword "old" rfl (by decide))
      (explained_of_ofText hi htype)
      (isSafe_fixedNode (by decide) (hfixed "old_target" (by decide))))
  have hmerge := (hword "MERGE" rfl (by decide)).space
    (isSafe_edgeFromSource direction (hfixed "source" (by decide)) (hword "r" rfl (by decide))
      (explained_of_ofText hi htype) (isSafe_fixedNode (by decide) (hfixed "target" (by decide))))
  refine isSafe_unlines ?_
  simp only [List.forall_mem_cons, List.not_mem_nil, false_implies, implies_true, and_true]
  refine ⟨?_, ?_, hword _ rfl (by decide), hword _ rfl (by decide), hword _ rfl (by decide),
    hword _ rfl (by decide), ?_, ?_, hword _ rfl (by decide)⟩
  · exact isSafe_selectNode hselection (hword "source" rfl (by decide))
      (hword "$source_id" rfl (by decide))
  · simpa using hold
  · exact isSafe_selectNode hselection (hword "target" rfl (by decide))
      (hword "target_id" rfl (by decide))
  · simpa using hmerge

/-- The fixed words of a statement that reads linked nodes. -/
def linkedNodesWords : List String :=
  selectionWords ++ ["source", "target", "RETURN", "ORDER", "BY", "created_at", "DESC"]

theorem isSafe_linkedNodes {sourceLabel id type : String} {direction : Direction}
    {targetLabel : Option String} {st : Statement}
    (h : linkedNodes sourceLabel id type direction targetLabel = .ok st)
    (hfixed : ∀ w ∈ linkedNodesWords, P w) (hlabel : isName sourceLabel = true → P sourceLabel)
    (htype : isName type = true → P type)
    (htarget : ∀ label ∈ targetLabel, isName label = true → P label) :
    IsSafe P st.text.toList := by
  obtain ⟨i, hi, h⟩ := bind_eq_ok.1 h
  obtain ⟨j, hj, h⟩ := bind_eq_ok.1 h
  obtain ⟨target, hnode, h⟩ := bind_eq_ok.1 h
  obtain rfl := pure_eq_ok.1 h
  have hselection : ∀ w ∈ selectionWords, P w :=
    fun w hw => hfixed w (by simp [linkedNodesWords, hw])
  have hword (text : String) {cs : List Char} (htext : String.ofList cs = text)
      (h : IsSafe (· ∈ linkedNodesWords) cs) : IsSafe P text.toList :=
    isSafe_fixed hfixed text htext h
  have hedge := (hword "MATCH" rfl (by decide)).space
    (isSafe_edgeFromSource direction (hfixed "source" (by decide)) (hword "" rfl (by decide))
      (explained_of_ofText hj htype)
      (isSafe_withLabel hnode (hword "target" rfl (by decide)) htarget))
  refine isSafe_unlines ?_
  simp only [List.forall_mem_cons, List.not_mem_nil, false_implies, implies_true, and_true]
  refine ⟨?_, by simpa using hedge, hword _ rfl (by decide), hword _ rfl (by decide)⟩
  exact isSafe_selectSource hselection (hfixed "source" (by decide))
    (explained_of_ofText hi hlabel)

/-- The fixed words of a statement that reads relationships. -/
def edgesWords : List String :=
  selectionWords ++ ["source", "r", "target", "RETURN", "ORDER", "BY", "created_at", "DESC"]

theorem isSafe_edgesOf {sourceLabel id type : String} {direction : Direction} {st : Statement}
    (h : edgesOf sourceLabel id type direction = .ok st) (hfixed : ∀ w ∈ edgesWords, P w)
    (hlabel : isName sourceLabel = true → P sourceLabel) (htype : isName type = true → P type) :
    IsSafe P st.text.toList := by
  obtain ⟨i, hi, h⟩ := bind_eq_ok.1 h
  obtain ⟨j, hj, h⟩ := bind_eq_ok.1 h
  obtain rfl := pure_eq_ok.1 h
  have hselection : ∀ w ∈ selectionWords, P w := fun w hw => hfixed w (by simp [edgesWords, hw])
  have hword (text : String) {cs : List Char} (htext : String.ofList cs = text)
      (h : IsSafe (· ∈ edgesWords) cs) : IsSafe P text.toList := isSafe_fixed hfixed text htext h
  have hedge := (hword "MATCH" rfl (by decide)).space
    (isSafe_edgeFromSource direction (hfixed "source" (by decide)) (hword "r" rfl (by decide))
      (explained_of_ofText hj htype) (isSafe_fixedNode (by decide) (hfixed "target" (by decide))))
  refine isSafe_unlines ?_
  simp only [List.forall_mem_cons, List.not_mem_nil, false_implies, implies_true, and_true]
  refine ⟨?_, by simpa using hedge, hword _ rfl (by decide), hword _ rfl (by decide)⟩
  exact isSafe_selectSource hselection (hfixed "source" (by decide))
    (explained_of_ofText hi hlabel)

/-! ### Statements of searches -/

/-- The fixed words of a page statement, without those of its projection. -/
def resultsWords : List String :=
  matchingWords ++ pageWords

theorem isSafe_results {s : Schema} {r : SearchRequest} {skip limit : UInt64} {withLinks : Bool}
    {st : Statement} (h : results s r skip limit withLinks = .ok st)
    (hfixed : ∀ w ∈ resultsWords, P w)
    (hlabel : isName s.label = true → P s.label)
    (hnames : ∀ name ∈ r.effectiveFields s, isName name = true → P name)
    (hfilters : ∀ f ∈ r.filters, AllowsField P f.field)
    (hprojection : ∀ lines, projection s withLinks = .ok lines →
      ∀ line ∈ lines, IsSafe P line.toList)
    (horder : ∀ order ∈ r.soughtOrder, isName order = true → P order)
    (hskip : P (toString skip.toNat)) (hlimit : P (toString limit.toNat)) :
    IsSafe P st.text.toList := by
  obtain ⟨m, projected, ordered, hm, hprojected, hordered, rfl⟩ := results_eq_ok h
  have hmatching : ∀ w ∈ matchingWords, P w := fun w hw => hfixed w (by simp [resultsWords, hw])
  have hpage : ∀ w ∈ pageWords, P w := fun w hw => hfixed w (by simp [resultsWords, hw])
  refine isSafe_unlines ?_
  simp only [pageLines, List.forall_mem_append]
  exact ⟨isSafe_matchingLines hmatching hm hlabel hnames hfilters, hprojection projected hprojected,
    isSafe_orderLines hpage hordered horder, isSafe_numberLine hpage (.inl rfl) hskip,
    isSafe_numberLine hpage (.inr rfl) hlimit⟩

/-- The fixed words of a statement that counts entities. -/
def countWords : List String :=
  matchingWords ++ ["RETURN", "count", "DISTINCT", "AS", "total_count"]

theorem isSafe_count {s : Schema} {r : SearchRequest} {st : Statement} (h : count s r = .ok st)
    (hfixed : ∀ w ∈ countWords, P w) (hlabel : isName s.label = true → P s.label)
    (hnames : ∀ name ∈ r.effectiveFields s, isName name = true → P name)
    (hfilters : ∀ f ∈ r.filters, AllowsField P f.field) : IsSafe P st.text.toList := by
  obtain ⟨m, hm, h⟩ := bind_eq_ok.1 h
  obtain rfl := pure_eq_ok.1 h
  have hmatching : ∀ w ∈ matchingWords, P w := fun w hw => hfixed w (by simp [countWords, hw])
  refine isSafe_unlines (List.forall_mem_append.2 ⟨?_, List.forall_mem_singleton.2 ?_⟩)
  · exact isSafe_matchingLines hmatching hm hlabel hnames hfilters
  · exact isSafe_fixed hfixed _ rfl (by decide)

end EntityGraph.Statement
