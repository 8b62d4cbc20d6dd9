import EntityGraph.Proofs.Outcome
import EntityGraph.Proofs.Statement.ReturnLines
/-!
# The columns of statements about single nodes

A node that is created, found or updated is returned under its own name; one
that is deleted is returned as its identifier, or as the number of nodes that
are gone.
-/

namespace EntityGraph.Statement

open Cypher

theorem returns_n : Returns "RETURN n".toList ["n"] := by
  have h : Returns ("RETURN " ++ "n").toList ["n"] := returns_name (by decide) (by decide)
  simpa using h

theorem returnColumns_createNode {label : String} {properties : Bag Json} {st : Statement}
    (h : createNode label properties = .ok st) : returnColumns st.text = .ok ["n"] := by
  obtain ⟨label, -, h⟩ := bind_eq_ok.1 h
  obtain rfl := pure_eq_ok.1 h
  have hcreate : IsSpelled IsClauseToken ("CREATE (n:" ++ label.text ++ " $properties)").toList := by
    have hinner : IsInner ("n:" ++ label.text ++ " $properties") :=
      (IsInner.append (by simp [IsInner]; decide) label.isInner).append (by simp [IsInner]; decide)
    have hline := (spelled_word "CREATE" (by decide)).space
      (spelled_group (isGroup_parens (isGroupBody_of_isInner hinner)))
    simpa using hline
  have hset : IsSpelled IsClauseToken ("SET n.created_at = " ++ now).toList := by
    have hstamp : IsSpelled IsClauseToken _ := spelled_stamp (by decide : isName "created_at" = true)
    have hline := (spelled_word "SET" (by decide)).space hstamp
    simpa using hline
  exact columns_of_lines (forall_mem_pair hcreate hset) returns_n (List.forall_mem_nil _) rfl

theorem returnColumns_findById {label id : String} {st : Statement}
    (h : findById label id = .ok st) : returnColumns st.text = .ok ["n"] := by
  obtain ⟨label, -, h⟩ := bind_eq_ok.1 h
  obtain rfl := pure_eq_ok.1 h
  have hselect : IsSpelled IsClauseToken (selectById label ++ " AND " ++ notDeleted).toList := by
    have hline := ((spelled_selectById label).space (spelled_word "AND" (by decide))).space
      (spelled_group isGroup_notDeleted)
    simpa using hline
  exact columns_of_lines (List.forall_mem_singleton.2 hselect) returns_n (List.forall_mem_nil _) rfl

theorem returnColumns_findByField {label storedName : String} {value : Json} {st : Statement}
    (h : findByField label storedName value = .ok st) : returnColumns st.text = .ok ["n"] := by
  obtain ⟨label, -, h⟩ := bind_eq_ok.1 h
  obtain ⟨storedName, -, h⟩ := bind_eq_ok.1 h
  obtain rfl := pure_eq_ok.1 h
  have hnode : IsGroup (labelled label).text.toList := isGroup_node isInner_n
  have hselect : IsSpelled IsClauseToken ("MATCH " ++ (labelled label).text ++ " WHERE n."
      ++ storedName.text ++ " = $field_value AND " ++ notDeleted).toList := by
    have hmatch := (spelled_word "MATCH" (by decide)).space (spelled_group hnode)
    have hproperty : IsSpelled IsClauseToken _ :=
      spelled_property "n" (by decide) storedName.isName
    have hvalue : IsSpelled IsClauseToken _ :=
      spelled_parameter (by decide : isName "field_value" = true)
    have hequal := (hproperty.space (spelled_operator '=' (by decide))).space hvalue
    have hwhere := (hmatch.space (spelled_word "WHERE" (by decide))).space hequal
    have hline := (hwhere.space (spelled_word "AND" (by decide))).space
      (spelled_group isGroup_notDeleted)
    simpa using hline
  have hlimit : IsTailLine "LIMIT 1".toList := isTailLine_number (.inr rfl) 1
  exact columns_of_lines (List.forall_mem_singleton.2 hselect) returns_n
    (List.forall_mem_singleton.2 hlimit) rfl

theorem returnColumns_updateNode {label id : String} {properties : Bag Json} {st : Statement}
    (h : updateNode label id properties = .ok st) : returnColumns st.text = .ok ["n"] := by
  obtain ⟨label, -, h⟩ := bind_eq_ok.1 h
  obtain rfl := pure_eq_ok.1 h
  have hset : IsSpelled IsClauseToken ("SET n += $properties, n.updated_at = " ++ now).toList := by
    have hadd : IsSpelled IsClauseToken ['+', '='] :=
      (spelled_operator '+' (by decide)).tight (spelled_operator '=' (by decide))
        (startsFenced_cons.2 (by decide))
    have hall := (((spelled_word "SET" (by decide)).space (spelled_word "n" (by decide))).space
      hadd).space (spelled_parameter (by decide : isName "properties" = true))
    have hstamp : IsSpelled IsClauseToken _ := spelled_stamp (by decide : isName "updated_at" = true)
    have hline := hall.comma hstamp ⟨by simp, rfl, rfl⟩
    simpa using hline
  exact columns_of_lines (forall_mem_pair (spelled_selectById label) hset) returns_n
    (List.forall_mem_nil _) rfl

theorem returnColumns_softDelete {label id : String} {st : Statement}
    (h : softDelete label id = .ok st) : returnColumns st.text = .ok ["id"] := by
  obtain ⟨label, -, h⟩ := bind_eq_ok.1 h
  obtain rfl := pure_eq_ok.1 h
  have hset : IsSpelled IsClauseToken ("SET n.deleted_at = " ++ now).toList := by
    have hstamp : IsSpelled IsClauseToken _ := spelled_stamp (by decide : isName "deleted_at" = true)
    have hline := (spelled_word "SET" (by decide)).space hstamp
    simpa using hline
  have hid : IsGroupBody "id(n)".toList := by
    have hname : IsGroupBody "id".toList := isGroupBody_of_all (by decide)
    exact hname.append (.group (by decide : closer? '(' = some ')')
      (isGroupBody_of_all (by decide) : IsGroupBody ['n']) .nil)
  have hreturn : Returns "RETURN toString(id(n)) AS id".toList ["id"] := by
    have hcall : Returns ("RETURN " ++ "toString" ++ "(" ++ "id(n)" ++ ") AS " ++ "id").toList ["id"] :=
      returns_counted (by decide) (by decide) (by decide) hid (by decide)
    simpa using hcall
  exact columns_of_lines (forall_mem_pair (spelled_selectById label) hset) hreturn
    (List.forall_mem_nil _) rfl

theorem returnColumns_detachDelete {label id : String} {st : Statement}
    (h : detachDelete label id = .ok st) : returnColumns st.text = .ok ["deleted_count"] := by
  obtain ⟨label, -, h⟩ := bind_eq_ok.1 h
  obtain rfl := pure_eq_ok.1 h
  have hdelete : IsSpelled IsClauseToken "DETACH DELETE n".toList :=
    ((spelled_word "DETACH" (by decide)).space (spelled_word "DELETE" (by decide))).space
      (spelled_word "n" (by decide))
  have hreturn : Returns "RETURN count(n) AS deleted_count".toList ["deleted_count"] := by
    have hcount := returns_count (isGroupBody_of_isInner isInner_n)
      (by decide : isName "deleted_count" = true)
    simpa using hcount
  exact columns_of_lines (forall_mem_pair (spelled_selectById label) hdelete) hreturn
    (List.forall_mem_nil _) rfl

end EntityGraph.Statement
