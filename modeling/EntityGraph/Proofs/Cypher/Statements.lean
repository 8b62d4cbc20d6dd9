import EntityGraph.Proofs.Cypher.Lines
/-!
# The columns of a statement of lines

A statement of lines has some clauses, one line that returns, and perhaps lines
that order and limit. Its columns are those of the line that returns
(`returnColumns_unlines`). That line comes in two forms: a list of names, which
are its columns, and one call with an alias.
-/

namespace EntityGraph.Cypher

open Text (unlines join)

/-! ### Clauses -/

@[simp] theorem toList_unlines_cons (line next : String) (lines : List String) :
    (unlines (line :: next :: lines)).toList = line.toList ++ '\n' :: (unlines (next :: lines)).toList := by
  simp [unlines, join]

theorem toList_unlines_append (clauses : List String) (next : String) (lines : List String) :
    (unlines (clauses ++ next :: lines)).toList =
      (clauses.flatMap fun c => c.toList ++ ['\n']) ++ (unlines (next :: lines)).toList := by
  induction clauses with
  | nil => rfl
  | cons c clauses ih =>
    obtain ⟨d, ds, hds⟩ : ∃ d ds, clauses ++ next :: lines = d :: ds := by
      cases clauses with
      | nil => exact ⟨next, lines, rfl⟩
      | cons d ds => exact ⟨d, ds ++ next :: lines, rfl⟩
    rw [List.cons_append, hds, toList_unlines_cons, ← hds, ih]
    simp

/-- The lexemes of lines of clauses, each ended by a line feed. -/
theorem exists_clauses {P : Token → Prop} {clauses : List String}
    (h : ∀ c ∈ clauses, IsSpelled P c.toList) : ∃ xs : List Lexeme, (∀ x ∈ xs, P x.token) ∧
      write xs = (clauses.flatMap fun c => c.toList ++ ['\n']) ∧ ∀ rest, Separated xs rest := by
  induction clauses with
  | nil => exact ⟨[], by simp, rfl, fun _ => trivial⟩
  | cons c clauses ih =>
    obtain ⟨line, hline, hinit, hlast, hchars⟩ := h c (by simp)
    obtain ⟨xs, hxs, hwrite, hseparated⟩ := ih fun d hd => h d (by simp [hd])
    refine ⟨line.lexemes ['\n'] ++ xs, ?_, ?_, fun rest => separated_append.2 ⟨?_, hseparated rest⟩⟩
    · intro x hx
      rcases List.mem_append.1 hx with hx | hx
      · exact Line.forall_lexemes.2 ⟨hinit, hlast⟩ x hx
      · exact hxs x hx
    · rw [write_append, Line.write_lexemes, hchars, hwrite, List.flatMap_cons]
    · exact hline.lexemes isBlankGap_newline (by simp)

/-! ### Lines that order and limit -/

/-- A line that orders or limits. -/
def IsTailLine (cs : List Char) : Prop :=
  ∃ line : Line, line.IsSeparated ∧ (∀ gap, startsTail (line.lexemes gap) = true) ∧
    ((∀ x ∈ line.init, IsClauseToken x.token) ∧ IsClauseToken line.last) ∧ line.chars = cs

/-- The lexemes of such lines. -/
theorem exists_tail {first : String} {more : List String}
    (h : ∀ line ∈ first :: more, IsTailLine line.toList) : ∃ xs : List Lexeme,
      startsTail xs = true ∧ (∀ x ∈ xs, IsClauseToken x.token) ∧
      write xs = (unlines (first :: more)).toList ∧ Separated xs [] := by
  induction more generalizing first with
  | nil =>
    obtain ⟨line, hline, hstarts, htokens, hchars⟩ := h first (by simp)
    refine ⟨line.lexemes [], hstarts [], Line.forall_lexemes.2 htokens, ?_,
      hline.lexemes (by simp) (by simp)⟩
    rw [Line.write_lexemes, hchars, List.append_nil]
    rfl
  | cons next more ih =>
    obtain ⟨line, hline, hstarts, htokens, hchars⟩ := h first (by simp)
    obtain ⟨xs, -, hxs, hwrite, hseparated⟩ := ih fun l hl => h l (List.mem_cons_of_mem first hl)
    refine ⟨line.lexemes ['\n'] ++ xs, startsTail_append (hstarts _) xs, ?_, ?_,
      separated_append.2 ⟨?_, hseparated⟩⟩
    · intro x hx
      rcases List.mem_append.1 hx with hx | hx
      · exact Line.forall_lexemes.2 htokens x hx
      · exact hxs x hx
    · rw [write_append, Line.write_lexemes, hchars, hwrite, toList_unlines_cons, List.append_assoc]
      rfl
    · exact hline.lexemes isBlankGap_newline (by simp)

/-- **The lexemes after the line that returns,** and the gap that ends it. -/
theorem exists_afterReturning {tail : List String} (htail : ∀ line ∈ tail, IsTailLine line.toList)
    (returning : String) : ∃ (gap : List Char) (ys : List Lexeme), IsBlankGap gap ∧
      (gap = [] → ys = []) ∧ IsTail ys ∧ (∀ y ∈ ys, IsClauseToken y.token) ∧ Separated ys [] ∧
      (unlines (returning :: tail)).toList = returning.toList ++ (gap ++ write ys) := by
  cases tail with
  | nil =>
    refine ⟨[], [], by simp, by simp, ⟨.inl rfl, by simp⟩, by simp, trivial, ?_⟩
    simp [unlines, join]
  | cons first more =>
    obtain ⟨ys, hstarts, htokens, hys, hseparated⟩ := exists_tail htail
    have htail : IsTail ys := ⟨.inr hstarts, fun y hy => ⟨(htokens y hy).1, (htokens y hy).2.2⟩⟩
    refine ⟨['\n'], ys, isBlankGap_newline, by simp, htail, htokens, hseparated, ?_⟩
    rw [toList_unlines_cons, hys]
    rfl

/-! ### Statements -/

/-- **A line returns columns:** whatever gap ends it, it is written by a phrase
with these columns. -/
def Returns (cs : List Char) (columns : List String) : Prop :=
  ∀ gap, IsBlankGap gap → ∃ r : ReturnPhrase, r.IsWellFormed ∧ r.tail = [] ∧ r.columns = columns ∧
    write r.lexemes = cs ++ gap ∧ ∀ rest, (gap = [] → rest = []) → Separated r.lexemes rest

/-- A phrase without a tail takes one on. -/
theorem ReturnPhrase.IsWellFormed.withTail {r : ReturnPhrase} {tail : List Lexeme}
    (h : r.IsWellFormed) (htail : IsTail tail) : { r with tail }.IsWellFormed :=
  ⟨h.word, h.distinct, h.first, h.plainStart, h.more, htail⟩

/-- **The columns of a statement of lines** are those of its line that
returns. -/
theorem returnColumns_unlines {clauses tail : List String} {returning : String}
    {columns : List String} (hclauses : ∀ c ∈ clauses, IsSpelled IsClauseToken c.toList)
    (hreturning : Returns returning.toList columns)
    (htail : ∀ line ∈ tail, IsTailLine line.toList) :
    returnColumns (unlines (clauses ++ returning :: tail)) = .ok columns := by
  obtain ⟨xs, hxs, hwrite, hseparated⟩ := exists_clauses hclauses
  obtain ⟨gap, ys, hgap, hend, hys, -, hysseparated, hall⟩ := exists_afterReturning htail returning
  obtain ⟨r, hr, hnone, hcolumns, hwriter, hseparatedr⟩ := hreturning gap hgap
  -- The phrase that the line returns by takes the lines after it as its tail.
  have hlexemes : { r with tail := ys }.lexemes = r.lexemes ++ ys := by
    simp [ReturnPhrase.lexemes, hnone]
  let q : Query := { first := { clauses := xs, returning := { r with tail := ys } } }
  have hq : q.lexemes = xs ++ (r.lexemes ++ ys) := by
    simp [q, Query.lexemes, PartPhrase.lexemes, hlexemes]
  have hqwell : q.IsWellFormed := ⟨⟨hxs, hr.withTail hys⟩, by simp [q], by simp [q]⟩
  have htext : unlines (clauses ++ returning :: tail) = String.ofList ([] ++ write q.lexemes) := by
    rw [← String.toList_inj, String.toList_ofList, toList_unlines_append, hall, hq, write_append,
      write_append, hwrite, hwriter]
    simp
  have hqseparated : Separated q.lexemes [] := by
    rw [hq]
    refine separated_append.2 ⟨hseparated _, separated_append.2 ⟨?_, hysseparated⟩⟩
    exact hseparatedr _ fun hnil => by simp [hend hnil]
  rw [htext, returnColumns_query (by simp) hqwell hqseparated]
  exact congrArg Except.ok hcolumns

end EntityGraph.Cypher
