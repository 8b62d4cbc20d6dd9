import EntityGraph.Proofs.Statement.Clauses
/-!
# Lines that return

The lines that statements end with: one that returns names or a number, and
lines that order the rows and limit them. A statement whose clauses are spelled
has the columns of the line that returns (`columns_of_lines`).
-/

namespace EntityGraph.Statement

open Cypher
open Text (join unlines)

/-! ### Lines that return -/

/-- A line that returns one name. -/
theorem returns_name {name : String} (h : IsColumnName name)
    (hplain : (Token.name (.plain name.toList)).isWord "distinct" = false) :
    Returns ("RETURN " ++ name).toList [name] := by
  have hnames : Returns _ [name] := returns_names false h hplain (by simp)
  simpa [join] using hnames

/-- A line that returns a call under an alias. -/
theorem returns_counted {function argument column : String} (hfunction : IsColumnName function)
    (horder : (Token.name (.plain function.toList)).isWord "order" = false)
    (hplain : (Token.name (.plain function.toList)).isWord "distinct" = false)
    (hargument : IsGroupBody argument.toList) (hcolumn : isName column = true) :
    Returns ("RETURN " ++ function ++ "(" ++ argument ++ ") AS " ++ column).toList [column] := by
  have hcall := returns_call hfunction horder hplain (isGroup_parens hargument) hcolumn
  simpa using hcall

/-- A line that returns a number under an alias. -/
theorem returns_count {argument column : String} (hargument : IsGroupBody argument.toList)
    (hcolumn : isName column = true) :
    Returns ("RETURN count(" ++ argument ++ ") AS " ++ column).toList [column] := by
  have hcall : Returns ("RETURN " ++ "count" ++ "(" ++ argument ++ ") AS " ++ column).toList [column] :=
    returns_counted (by decide) (by decide) (by decide) hargument hcolumn
  simpa using hcall

/-! ### Lines that order and limit -/

/-- A line that orders by a property. -/
theorem isTailLine_order {name key way : String} (hname : IsClauseWord name)
    (hkey : isName key = true) (hway : IsClauseWord way) :
    IsTailLine ("ORDER BY " ++ name ++ "." ++ key ++ " " ++ way).toList := by
  refine ⟨{
    init := [spacedWord "ORDER", spacedWord "BY", named name [], ⟨.lookup (.plain key.toList), [' ']⟩]
    last := .name (.plain way.toList) }, ⟨?_, hway.1⟩, fun gap => rfl, ⟨?_, by simp, hway.2⟩, ?_⟩
  · have hpoint : (named name []).token.EndsBefore ('.' :: key.toList) := by
      simp [named, Token.EndsBefore, Name.EndsBefore]
      decide
    exact separated_spacedWord (by decide) (separated_spacedWord (by decide)
      ⟨hname.1, isBlankGap_nil, hpoint, hkey, isBlankGap_space,
        Token.endsBefore_gap _ isBlankGap_space (by simp), trivial⟩)
  · have hlookup : IsClauseToken (.lookup (.plain key.toList)) := ⟨by simp, rfl, rfl⟩
    simp only [List.mem_cons, List.not_mem_nil, or_false, forall_eq_or_imp, forall_eq]
    exact ⟨by decide, by decide, ⟨by simp [named], hname.2⟩, hlookup⟩
  · simp [Line.chars, spacedWord, named, Token.chars, Name.chars]

theorem isDigit_of_mem_toString {n : Nat} {c : Char} (h : c ∈ (toString n).toList) :
    c.isDigit = true := by
  rw [Nat.toString_eq_ofList_toDigits, String.toList_ofList] at h
  exact Nat.isDigit_of_mem_toDigits (by decide) (by decide) h

/-- A line that passes rows over or limits them. -/
theorem isTailLine_number {word : String} (hword : word = "SKIP" ∨ word = "LIMIT") (n : Nat) :
    IsTailLine (word ++ " " ++ toString n).toList := by
  have hdigits : IsDigits (Nat.toDigits 10 n) :=
    ⟨Nat.toDigits_ne_nil, fun c hc => Nat.isDigit_of_mem_toDigits (by decide) (by decide) hc⟩
  have hnumeral : IsNumeral (Nat.toDigits 10 n) :=
    ⟨_, [], [], hdigits, .inl rfl, .inl rfl, by simp⟩
  refine ⟨{ init := [spacedWord word], last := .number (Nat.toDigits 10 n) }, ⟨?_, hnumeral⟩,
    fun gap => ?_, ⟨?_, by simp, rfl, rfl⟩, ?_⟩
  · rcases hword with rfl | rfl <;> exact separated_spacedWord (by decide) trivial
  · rcases hword with rfl | rfl <;> rfl
  · rcases hword with rfl | rfl <;> simp [spacedWord] <;> decide
  · rw [String.toList_append, Nat.toString_eq_ofList_toDigits, String.toList_ofList]
    simp [Line.chars, spacedWord, Token.chars, Name.chars]

theorem isTailLine_numberLine {word : String} (hword : word = "SKIP" ∨ word = "LIMIT")
    (number : UInt64) : ∀ line ∈ numberLine word number, IsTailLine line.toList := by
  intro line hline
  unfold numberLine at hline
  split at hline
  · simp at hline
  · obtain rfl := List.mem_singleton.1 hline
    exact isTailLine_number hword _

/-- The columns of a statement whose lines are known. -/
theorem columns_of_lines {clauses tail : List String} {returning : String} {columns : List String}
    {st : Statement} (hclauses : ∀ c ∈ clauses, IsSpelled IsClauseToken c.toList)
    (hreturning : Returns returning.toList columns)
    (htail : ∀ line ∈ tail, IsTailLine line.toList)
    (htext : st.text = unlines (clauses ++ returning :: tail)) :
    returnColumns st.text = .ok columns := by
  rw [htext]
  exact returnColumns_unlines hclauses hreturning htail

theorem forall_mem_pair {P : String → Prop} {a b : String} (ha : P a) (hb : P b) :
    ∀ line ∈ [a, b], P line :=
  List.forall_mem_cons.2 ⟨ha, List.forall_mem_singleton.2 hb⟩

end EntityGraph.Statement
