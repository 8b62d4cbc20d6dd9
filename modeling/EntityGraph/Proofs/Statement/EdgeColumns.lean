import EntityGraph.Proofs.Statement.ReturnLines
import EntityGraph.Proofs.Statement.Selection
/-!
# The columns of statements about relationships

Statements that merge and synchronise relationships, and those that list them
or the nodes at their other ends.
-/

namespace EntityGraph.Statement

open Cypher
open Text (join)

theorem isInner_target : IsInner "target" :=
  isInner_of_isName (by decide)

theorem isInner_targetNode : IsInner (NodePattern.variableName { variableName := "target" }) :=
  isInner_target

theorem spelled_merge (type : Identifier) (direction : Direction) : IsSpelled IsClauseToken
    ("MERGE " ++ (edgeFromSource "r" type direction { variableName := "target" }).text).toList := by
  have hedge := spelled_edgeFromSource type direction (isInner_of_isName (by decide) : IsInner "r")
    isInner_targetNode
  have hline := (spelled_word "MERGE" (by decide)).space hedge
  simpa using hline

theorem spelled_selectSourceNode :
    IsSpelled IsClauseToken (selectNode "source" "$source_id").toList :=
  spelled_selectNode isInner_source (by simp [IsInner]; decide)

theorem returnColumns_mergeEdge {sourceId type targetId : String} {direction : Direction}
    {st : Statement} (h : mergeEdge sourceId type targetId direction = .ok st) :
    returnColumns st.text = .ok ["r"] := by
  obtain ⟨type, -, h⟩ := bind_eq_ok.1 h
  obtain rfl := pure_eq_ok.1 h
  have htarget : IsSpelled IsClauseToken (selectNode "target" "$target_id").toList :=
    spelled_selectNode isInner_target (by simp [IsInner]; decide)
  have hreturn : Returns "RETURN r".toList ["r"] := by
    have hname : Returns ("RETURN " ++ "r").toList ["r"] := returns_name (by decide) (by decide)
    simpa using hname
  exact columns_of_lines (List.forall_mem_cons.2 ⟨spelled_selectSourceNode,
    forall_mem_pair htarget (spelled_merge type direction)⟩) hreturn (List.forall_mem_nil _) rfl

theorem returnColumns_syncEdges {sourceId type : String} {targetIds : List String}
    {direction : Direction} {st : Statement}
    (h : syncEdges sourceId type targetIds direction = .ok st) :
    returnColumns st.text = .ok ["synced_count"] := by
  obtain ⟨type, -, h⟩ := bind_eq_ok.1 h
  obtain rfl := pure_eq_ok.1 h
  have hold : IsSpelled IsClauseToken ("OPTIONAL MATCH " ++ (edgeFromSource "old" type direction
      { variableName := "old_target" }).text).toList := by
    have hname : IsInner (NodePattern.variableName { variableName := "old_target" }) :=
      isInner_of_isName (by decide)
    have hedge := spelled_edgeFromSource type direction
      (isInner_of_isName (by decide) : IsInner "old") hname
    have hline := ((spelled_word "OPTIONAL" (by decide)).space
      (spelled_word "MATCH" (by decide))).space hedge
    simpa using hline
  have hwhere : IsSpelled IsClauseToken
      "WHERE NOT toString(id(old_target)) IN $target_ids".toList := by
    have hid : IsGroupBody "id(old_target)".toList := by
      have hname : IsGroupBody "id".toList := isGroupBody_of_all (by decide)
      have hold : IsGroupBody "old_target".toList := isGroupBody_of_all (by decide)
      exact hname.append (.group (by decide : closer? '(' = some ')') hold .nil)
    have hnot := (spelled_word "WHERE" (by decide)).space (spelled_word "NOT" (by decide))
    have hcall : IsSpelled IsClauseToken _ := spelled_call "toString" (by decide) hid
    have hline := ((hnot.space hcall).space (spelled_word "IN" (by decide))).space
      (spelled_parameter (by decide : isName "target_ids" = true))
    simpa using hline
  have hdelete : IsSpelled IsClauseToken "DELETE old".toList :=
    (spelled_word "DELETE" (by decide)).space (spelled_word "old" (by decide))
  have hwith : IsSpelled IsClauseToken "WITH DISTINCT source".toList :=
    ((spelled_word "WITH" (by decide)).space (spelled_word "DISTINCT" (by decide))).space
      (spelled_word "source" (by decide))
  have hunwind : IsSpelled IsClauseToken "UNWIND $target_ids AS target_id".toList := by
    have hvalues := (spelled_word "UNWIND" (by decide)).space
      (spelled_parameter (by decide : isName "target_ids" = true))
    have hline := (hvalues.space (spelled_word "AS" (by decide))).space
      (spelled_word "target_id" (by decide))
    simpa using hline
  have htarget : IsSpelled IsClauseToken (selectNode "target" "target_id").toList :=
    spelled_selectNode isInner_target (isInner_of_isName (by decide))
  have hreturn : Returns "RETURN count(DISTINCT target) AS synced_count".toList
      ["synced_count"] := by
    have hargument : IsGroupBody "DISTINCT target".toList := isGroupBody_of_all (by decide)
    have hcount := returns_count hargument (by decide : isName "synced_count" = true)
    simpa using hcount
  refine columns_of_lines (List.forall_mem_cons.2 ⟨spelled_selectSourceNode,
    List.forall_mem_cons.2 ⟨hold, List.forall_mem_cons.2 ⟨hwhere,
      List.forall_mem_cons.2 ⟨hdelete, List.forall_mem_cons.2 ⟨hwith,
        List.forall_mem_cons.2 ⟨hunwind, forall_mem_pair htarget (spelled_merge type direction)⟩⟩⟩⟩⟩⟩)
    hreturn (List.forall_mem_nil _) rfl

theorem returnColumns_linkedNodes {sourceLabel id type : String} {direction : Direction}
    {targetLabel : Option String} {st : Statement}
    (h : linkedNodes sourceLabel id type direction targetLabel = .ok st) :
    returnColumns st.text = .ok ["target"] := by
  obtain ⟨sourceLabel, -, h⟩ := bind_eq_ok.1 h
  obtain ⟨type, -, h⟩ := bind_eq_ok.1 h
  obtain ⟨target, htarget, h⟩ := bind_eq_ok.1 h
  obtain rfl := pure_eq_ok.1 h
  have hvariable : IsInner target.variableName := by
    rw [NodePattern.variableName_of_withLabel htarget]
    exact isInner_target
  have hmatch : IsSpelled IsClauseToken
      ("MATCH " ++ (edgeFromSource "" type direction target).text).toList := by
    have hedge := spelled_edgeFromSource type direction (by simp [IsInner] : IsInner "") hvariable
    have hline := (spelled_word "MATCH" (by decide)).space hedge
    simpa using hline
  have hreturn : Returns "RETURN target".toList ["target"] := by
    have hname : Returns ("RETURN " ++ "target").toList ["target"] :=
      returns_name (by decide) (by decide)
    simpa using hname
  have horder : IsTailLine "ORDER BY target.created_at DESC".toList := by
    have hline : IsTailLine ("ORDER BY " ++ "target" ++ "." ++ "created_at" ++ " " ++ "DESC").toList :=
      isTailLine_order (by decide) (by decide) (by decide)
    simpa using hline
  exact columns_of_lines (forall_mem_pair (spelled_selectSource sourceLabel) hmatch) hreturn
    (List.forall_mem_singleton.2 horder) rfl

theorem returnColumns_edgesOf {sourceLabel id type : String} {direction : Direction}
    {st : Statement} (h : edgesOf sourceLabel id type direction = .ok st) :
    returnColumns st.text = .ok ["r", "source", "target"] := by
  obtain ⟨sourceLabel, -, h⟩ := bind_eq_ok.1 h
  obtain ⟨type, -, h⟩ := bind_eq_ok.1 h
  obtain rfl := pure_eq_ok.1 h
  have hmatch : IsSpelled IsClauseToken ("MATCH " ++ (edgeFromSource "r" type direction
      { variableName := "target" }).text).toList := by
    have hedge := spelled_edgeFromSource type direction (isInner_of_isName (by decide) : IsInner "r")
      isInner_targetNode
    have hline := (spelled_word "MATCH" (by decide)).space hedge
    simpa using hline
  have hreturn : Returns "RETURN r, source, target".toList ["r", "source", "target"] := by
    have hnames : Returns _ ["r", "source", "target"] :=
      returns_names false (by decide) (by decide)
        (forall_mem_pair (by decide : IsColumnName "source") (by decide : IsColumnName "target"))
    simpa [join] using hnames
  have horder : IsTailLine "ORDER BY r.created_at DESC".toList := by
    have hline : IsTailLine ("ORDER BY " ++ "r" ++ "." ++ "created_at" ++ " " ++ "DESC").toList :=
      isTailLine_order (by decide) (by decide) (by decide)
    simpa using hline
  exact columns_of_lines (forall_mem_pair (spelled_selectSource sourceLabel) hmatch) hreturn
    (List.forall_mem_singleton.2 horder) rfl

end EntityGraph.Statement
