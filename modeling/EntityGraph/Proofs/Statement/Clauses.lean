import EntityGraph.Proofs.Cypher.Returning
import EntityGraph.Proofs.Text.Join
import EntityGraph.Statement.Edge
import EntityGraph.Statement.Search
/-!
# Clauses as lines of tokens

The lines that select nodes and match relationships are lines of clause tokens,
whatever names stand in them: a label or a type only ever stands inside
brackets, where it is part of a group, and the name of a property after a
point, where it is no word.
-/

namespace EntityGraph.Statement

open Cypher

/-! ### Names -/

theorem isNameChar_of_mem {s : String} (h : isName s = true) {c : Char} (hc : c ∈ s.toList) :
    isNameChar c = true := by
  cases hs : s.toList with
  | nil => simp [hs] at hc
  | cons d ds =>
    simp only [isName, hs, isNameChars, Bool.and_eq_true, List.all_eq_true] at h
    rw [hs] at hc
    rcases List.mem_cons.1 hc with rfl | hc
    · exact isNameChar_of_isNameStart h.1
    · exact h.2 c hc

theorem isGroupChar_of_isNameChar {c : Char} (h : isNameChar c = true) : isGroupChar c = true := by
  have hne {d : Char} (hd : isNameChar d = false) : c ≠ d := by
    rintro rfl
    simp [h] at hd
  simp [isGroupChar, closer?, isCloser, isQuote, hne (d := '(') (by decide),
    hne (d := '[') (by decide), hne (d := '\x7b') (by decide), hne (d := ')') (by decide),
    hne (d := ']') (by decide), hne (d := '\x7d') (by decide), hne (d := apostrophe) (by decide),
    hne (d := '"') (by decide), hne (d := accent) (by decide)]

/-- Characters that may stand inside brackets. -/
def IsInner (s : String) : Prop :=
  ∀ c ∈ s.toList, isGroupChar c = true

theorem isInner_of_isName {s : String} (h : isName s = true) : IsInner s :=
  fun _ hc => isGroupChar_of_isNameChar (isNameChar_of_mem h hc)

theorem Identifier.isInner (i : Identifier) : IsInner i.text :=
  isInner_of_isName i.isName

theorem IsInner.append {s t : String} (hs : IsInner s) (ht : IsInner t) : IsInner (s ++ t) := by
  intro c hc
  rw [String.toList_append, List.mem_append] at hc
  exact hc.elim (hs c) (ht c)

theorem isGroupBody_of_isInner {s : String} (h : IsInner s) : IsGroupBody s.toList :=
  isGroupBody_of_all (List.all_eq_true.2 h)

/-- A balanced text between brackets of one sort. -/
theorem isGroup_parens {inner : List Char} (h : IsGroupBody inner) :
    IsGroup ('(' :: (inner ++ [')'])) :=
  ⟨'(', ')', inner, by decide, h, rfl⟩

/-! ### Words, calls and patterns -/

/-- A word of a clause: a name that neither returns nor joins parts. -/
def IsClauseWord (word : String) : Prop :=
  isName word = true ∧ (Token.name (.plain word.toList)).isWord "return" = false ∧
    (Token.name (.plain word.toList)).isWord "union" = false

instance (word : String) : Decidable (IsClauseWord word) :=
  inferInstanceAs (Decidable (_ ∧ _))

theorem spelled_word (word : String) (h : IsClauseWord word) :
    IsSpelled IsClauseToken word.toList :=
  .token (t := .name (.plain word.toList)) h.1 ⟨by simp, h.2⟩

theorem spelled_group {cs : List Char} (h : IsGroup cs) : IsSpelled IsClauseToken cs :=
  .token (t := .group cs) h ⟨by simp, rfl, rfl⟩

theorem spelled_operator (symbol : Char) (h : isOperator symbol = true) :
    IsSpelled IsClauseToken [symbol] :=
  .token (t := .operator symbol) h ⟨by simp, rfl, rfl⟩

theorem spelled_parameter {name : String} (h : isName name = true) :
    IsSpelled IsClauseToken ('$' :: name.toList) :=
  .token (t := .parameter (.plain name.toList)) h ⟨by simp, rfl, rfl⟩

/-- A property of a named thing, whatever its name. -/
theorem spelled_property (word : String) {key : String} (h : IsClauseWord word) (hkey : isName key = true) :
    IsSpelled IsClauseToken (word.toList ++ '.' :: key.toList) :=
  .property h.1 hkey ⟨by simp, h.2⟩ ⟨by simp, rfl, rfl⟩

/-- A call with a balanced argument. -/
theorem spelled_call (word : String) {argument : List Char} (h : IsClauseWord word)
    (hargument : IsGroupBody argument) :
    IsSpelled IsClauseToken (word.toList ++ '(' :: (argument ++ [')'])) :=
  (spelled_word word h).tight (spelled_group (isGroup_parens hargument))
    (startsFenced_cons.2 (by decide))

/-- A node stands between brackets, with its label. -/
theorem isGroup_node {node : NodePattern} (h : IsInner node.variableName) :
    IsGroup node.text.toList := by
  unfold NodePattern.text
  cases node.label with
  | none => simpa using isGroup_parens (isGroupBody_of_isInner h)
  | some label =>
    have hbody := (isGroupBody_of_isInner h).append
      (.plain (c := ':') (by decide) (isGroupBody_of_isInner label.isInner))
    simpa using isGroup_parens hbody

theorem isInner_join {sep : String} {parts : List String} (hsep : IsInner sep)
    (h : ∀ part ∈ parts, IsInner part) : IsInner (Text.join sep parts) :=
  Text.join_induction (by simp [IsInner]) (fun _ _ hs ht => (hs.append hsep).append ht) h

/-- A part of an arrow is one operator or two, and no token runs on with it. -/
theorem spelled_arrow {arrow : String} (h : arrow = "-" ∨ arrow = "->" ∨ arrow = "<-") :
    IsSpelled IsClauseToken arrow.toList ∧ ∀ rest, StartsFenced (arrow.toList ++ rest) := by
  have htwo {c d : Char} (hc : isOperator c = true) (hd : isOperator d = true)
      (hfence : isFence d = true) : IsSpelled IsClauseToken ([c] ++ [d]) :=
    (spelled_operator c hc).tight (spelled_operator d hd) (startsFenced_cons.2 hfence)
  rcases h with rfl | rfl | rfl
  · exact ⟨spelled_operator '-' (by decide), fun rest => startsFenced_cons.2 (by decide)⟩
  · exact ⟨htwo (by decide) (by decide) (by decide), fun rest => startsFenced_cons.2 (by decide)⟩
  · exact ⟨htwo (by decide) (by decide) (by decide), fun rest => startsFenced_cons.2 (by decide)⟩

/-- **A relationship pattern is a line of clause tokens:** three groups and the
arrows between them. -/
theorem spelled_edge {edge : EdgePattern} (hsource : IsInner edge.source.variableName)
    (hvariable : IsInner edge.variableName) (htarget : IsInner edge.target.variableName) :
    IsSpelled IsClauseToken edge.text.toList := by
  have htypes : IsInner (Text.join "|" (edge.types.map Identifier.text)) := by
    refine isInner_join (by simp [IsInner]; decide) fun part hpart => ?_
    obtain ⟨i, -, rfl⟩ := List.mem_map.1 hpart
    exact i.isInner
  have hbody := (isGroupBody_of_isInner hvariable).append
    (.plain (c := ':') (by decide) (isGroupBody_of_isInner htypes))
  have hmiddle : IsGroup ('[' :: (_ ++ [']'])) := ⟨'[', ']', _, by decide, hbody, rfl⟩
  have hleft := spelled_arrow (by cases edge.direction <;> simp [Direction.arrows] :
    edge.direction.arrows.1 = "-" ∨ edge.direction.arrows.1 = "->" ∨ edge.direction.arrows.1 = "<-")
  have hright := spelled_arrow (by cases edge.direction <;> simp [Direction.arrows] :
    edge.direction.arrows.2 = "-" ∨ edge.direction.arrows.2 = "->" ∨ edge.direction.arrows.2 = "<-")
  have hend := hright.1.tight (spelled_group (isGroup_node htarget))
    (by simpa using (isGroup_node htarget).startsFenced [])
  have hrest := (spelled_group hmiddle).tight hend (hright.2 _)
  have harrow := hleft.1.tight hrest (hmiddle.startsFenced _)
  have h := (spelled_group (isGroup_node hsource)).tight harrow (hleft.2 _)
  simpa [EdgePattern.text] using h

theorem isInner_n : IsInner "n" :=
  isInner_of_isName (by decide)

theorem isInner_source : IsInner "source" :=
  isInner_of_isName (by decide)

/-- A relationship of the node that a search is about. -/
theorem spelled_edgeFromNode (types : List Identifier) (direction : Direction)
    {target : NodePattern} (htarget : IsInner target.variableName) : IsSpelled IsClauseToken
      (EdgePattern.text { source := { variableName := "n" }, types, direction, target }).toList :=
  spelled_edge isInner_n (by simp [IsInner]) htarget

theorem spelled_edgeFromSource {variableName : String} (type : Identifier) (direction : Direction)
    {target : NodePattern} (hvariable : IsInner variableName)
    (htarget : IsInner target.variableName) : IsSpelled IsClauseToken
      (edgeFromSource variableName type direction target).text.toList :=
  spelled_edge isInner_source hvariable htarget

/-! ### Lines of clauses -/

/-- A line that selects a node by its identifier. -/
theorem spelled_selection {node : NodePattern} {variableName id : String}
    (hnode : IsInner node.variableName) (hvariable : IsInner variableName) (hid : IsInner id) :
    IsSpelled IsClauseToken ("MATCH " ++ node.text ++ " WHERE id(" ++ variableName
      ++ ") = toInteger(" ++ id ++ ")").toList := by
  have hmatch := (spelled_word "MATCH" (by decide)).space
    (spelled_group (isGroup_node hnode))
  have hleft : IsSpelled IsClauseToken _ :=
    spelled_call "id" (by decide) (isGroupBody_of_isInner hvariable)
  have hright : IsSpelled IsClauseToken _ :=
    spelled_call "toInteger" (by decide) (isGroupBody_of_isInner hid)
  have hequal := (hleft.space (spelled_operator '=' (by decide))).space hright
  have h := (hmatch.space (spelled_word "WHERE" (by decide))).space hequal
  simpa using h

theorem spelled_selectNode {variableName id : String} (hvariable : IsInner variableName)
    (hid : IsInner id) : IsSpelled IsClauseToken (selectNode variableName id).toList := by
  have hnode : IsInner (NodePattern.variableName { variableName }) := hvariable
  have h := spelled_selection hnode hvariable hid
  simpa [selectNode, NodePattern.text] using h

theorem spelled_selectById (label : Identifier) :
    IsSpelled IsClauseToken (selectById label).toList := by
  have hid : IsInner "$id" := by
    simp [IsInner]
    decide
  have hnode : IsInner (labelled label).variableName := isInner_n
  have h := spelled_selection hnode isInner_n hid
  simpa [selectById] using h

theorem spelled_selectSource (label : Identifier) :
    IsSpelled IsClauseToken (selectSource label).toList := by
  have hid : IsInner "$id" := by
    simp [IsInner]
    decide
  have hnode : IsInner
      (NodePattern.variableName { variableName := "source", label := some label }) := isInner_source
  have h := spelled_selection hnode isInner_source hid
  simpa [selectSource] using h

/-- The condition that keeps deleted nodes out is one group. -/
theorem isGroup_notDeleted : IsGroup notDeleted.toList :=
  have hbody : IsGroupBody "n.deleted_at IS NULL".toList := isGroupBody_of_all (by decide)
  isGroup_parens hbody

theorem spelled_now : IsSpelled IsClauseToken now.toList := by
  have hname : IsGroupBody "datetime".toList := isGroupBody_of_all (by decide)
  have hbody : IsGroupBody "datetime()".toList :=
    hname.append (.group (by decide : closer? '(' = some ')') .nil .nil)
  exact spelled_call "toString" (by decide) hbody

/-- A line that sets a property of the node to the time. -/
theorem spelled_stamp {key : String} (hkey : isName key = true) :
    IsSpelled IsClauseToken ("n." ++ key ++ " = " ++ now).toList := by
  have hproperty := spelled_property "n" (by decide) hkey
  have h := (hproperty.space (spelled_operator '=' (by decide))).space spelled_now
  simpa using h

end EntityGraph.Statement
