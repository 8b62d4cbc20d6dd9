import EntityGraph.Proofs.Cypher.Statements
/-!
# Lines that return

The two forms of a line that returns: a list of names, which are its columns
(`returns_names`), and a call with an alias (`returns_call`). A name of a list
must not be a word that ends expressions; an alias may be any name.
-/

namespace EntityGraph.Cypher

open Text (join)

/-! ### Names -/

/-- A plain name with a gap. -/
def named (name : String) (gap : List Char) : Lexeme :=
  ⟨.name (.plain name.toList), gap⟩

/-- A comma and a space. -/
def spacedComma : Lexeme :=
  ⟨.comma, [' ']⟩

/-- Names with commas between them, the last in front of a gap. -/
def listed (gap : List Char) : List String → List Lexeme
  | [] => []
  | [name] => [named name gap]
  | name :: next :: names => named name [] :: spacedComma :: listed gap (next :: names)

theorem write_listed (gap : List Char) (first : String) (more : List String) :
    write (listed gap (first :: more)) = (join ", " (first :: more)).toList ++ gap := by
  induction more generalizing first with
  | nil => simp [listed, named, join, Token.chars, Name.chars]
  | cons next more ih =>
    simp [listed, named, spacedComma, join, Token.chars, Name.chars, ih next]

theorem separated_listed {gap rest : List Char} (hgap : IsBlankGap gap)
    (hend : gap = [] → rest = []) {names : List String} (h : ∀ name ∈ names, isName name = true) :
    Separated (listed gap names) rest := by
  induction names with
  | nil => trivial
  | cons name names ih =>
    have hname : (Token.name (.plain name.toList)).IsWellFormed := h name (by simp)
    cases names with
    | nil => exact ⟨hname, hgap, Token.endsBefore_gap _ hgap hend, trivial⟩
    | cons next names =>
      have hcomma : isFence ',' = true := by decide
      refine ⟨hname, isBlankGap_nil, ?_, trivial, isBlankGap_space, trivial,
        ih fun n hn => h n (List.mem_cons_of_mem name hn)⟩
      exact Token.endsBefore_of_startsFenced _ (startsFenced_cons.2 hcomma)

/-! ### A list of names -/

/-- A name that may stand for itself in a list of what is returned. -/
structure IsColumnName (name : String) : Prop where
  isName : isName name = true
  token : IsExpressionToken (.name (.plain name.toList))

instance (name : String) : Decidable (IsColumnName name) :=
  decidable_of_iff (isName name = true ∧ IsExpressionToken (.name (.plain name.toList)))
    ⟨fun h => ⟨h.1, h.2⟩, fun h => ⟨h.isName, h.token⟩⟩

def nameItem (name : String) (gap : List Char) : ItemPhrase where
  expression := [named name gap]

theorem IsColumnName.item {name : String} (h : IsColumnName name) (gap : List Char) :
    (nameItem name gap).IsWellFormed :=
  ⟨isExpression_singleton h.token, by simp [nameItem]⟩

/-- Names after a comma each, the last in front of a gap. -/
def moreNames (gap : List Char) : List String → List (Lexeme × ItemPhrase)
  | [] => []
  | [name] => [(spacedComma, nameItem name gap)]
  | name :: next :: names => (spacedComma, nameItem name []) :: moreNames gap (next :: names)

/-- The phrase that returns names. -/
def namesPhrase (distinct : Bool) (first : String) (more : List String) (gap : List Char) :
    ReturnPhrase where
  word := spacedWord "RETURN"
  distinct := if distinct then some (spacedWord "DISTINCT") else none
  first := nameItem first (if more.isEmpty then gap else [])
  more := moreNames gap more

theorem moreLexemes_moreNames (gap : List Char) (first : String) (more : List String) :
    named first (if more.isEmpty then gap else []) :: moreLexemes (moreNames gap more) =
      listed gap (first :: more) := by
  induction more generalizing first with
  | nil => rfl
  | cons next more ih =>
    rw [listed, ← ih next]
    cases more <;> rfl

theorem lexemes_namesPhrase (distinct : Bool) (first : String) (more : List String)
    (gap : List Char) : (namesPhrase distinct first more gap).lexemes =
      spacedWord "RETURN" :: ((if distinct then [spacedWord "DISTINCT"] else []) ++
        listed gap (first :: more)) := by
  rw [← moreLexemes_moreNames]
  cases distinct <;>
    simp [namesPhrase, ReturnPhrase.lexemes, nameItem, ItemPhrase.lexemes]

theorem mem_moreNames {gap : List Char} {names : List String} {e : Lexeme × ItemPhrase}
    (h : e ∈ moreNames gap names) : e.1 = spacedComma ∧ ∃ name ∈ names, ∃ g, e.2 = nameItem name g := by
  induction names with
  | nil => simp [moreNames] at h
  | cons name names ih =>
    cases names with
    | nil =>
      obtain rfl := List.mem_singleton.1 h
      exact ⟨rfl, name, by simp, gap, rfl⟩
    | cons next names =>
      rcases List.mem_cons.1 h with rfl | h
      · exact ⟨rfl, name, by simp, [], rfl⟩
      · obtain ⟨hcomma, n, hn, g, hg⟩ := ih h
        exact ⟨hcomma, n, List.mem_cons_of_mem name hn, g, hg⟩

theorem column_nameItem (name : String) (gap : List Char) : (nameItem name gap).column = name := by
  simp [nameItem, ItemPhrase.column, spelled, named, Token.chars, Name.chars]

theorem columns_moreNames (gap : List Char) (names : List String) :
    (moreNames gap names).map (·.2.column) = names := by
  induction names with
  | nil => rfl
  | cons name names ih =>
    cases names with
    | nil => simp [moreNames, column_nameItem]
    | cons next names => simp [moreNames, column_nameItem, ih]

theorem namesPhrase_isWellFormed (distinct : Bool) {first : String} {more : List String}
    (hfirst : IsColumnName first)
    (hplain : (Token.name (.plain first.toList)).isWord "distinct" = false)
    (hmore : ∀ name ∈ more, IsColumnName name) (gap : List Char) :
    (namesPhrase distinct first more gap).IsWellFormed := by
  refine ⟨rfl, ?_, hfirst.item _, ⟨rfl, hplain⟩, ?_, ⟨.inl rfl, by simp [namesPhrase]⟩⟩
  · cases distinct with
    | false => simp [namesPhrase]
    | true =>
      simp [namesPhrase]
      decide
  · intro e he
    obtain ⟨hcomma, name, hname, g, hg⟩ := mem_moreNames he
    exact ⟨by rw [hcomma]; rfl, hg ▸ (hmore name hname).item g⟩

theorem columns_namesPhrase (distinct : Bool) (first : String) (more : List String)
    (gap : List Char) : (namesPhrase distinct first more gap).columns = first :: more := by
  rw [ReturnPhrase.columns]
  simp only [namesPhrase, column_nameItem, columns_moreNames]

theorem separated_namesPhrase (distinct : Bool) {first : String} {more : List String}
    {gap rest : List Char} (hgap : IsBlankGap gap) (hend : gap = [] → rest = [])
    (h : ∀ name ∈ first :: more, isName name = true) :
    Separated (namesPhrase distinct first more gap).lexemes rest := by
  have hlisted := separated_listed hgap hend h
  rw [lexemes_namesPhrase]
  cases distinct with
  | false => exact separated_spacedWord (by decide) hlisted
  | true => exact separated_spacedWord (by decide) (separated_spacedWord (by decide) hlisted)

/-- **A list of names returns columns of these names.** -/
theorem returns_names (distinct : Bool) {first : String} {more : List String}
    (hfirst : IsColumnName first)
    (hplain : (Token.name (.plain first.toList)).isWord "distinct" = false)
    (hmore : ∀ name ∈ more, IsColumnName name) :
    Returns ("RETURN " ++ (if distinct then "DISTINCT " else "") ++
      join ", " (first :: more)).toList (first :: more) := by
  intro gap hgap
  have hisName : ∀ name ∈ first :: more, isName name = true := by
    intro name hname
    rcases List.mem_cons.1 hname with rfl | hname
    · exact hfirst.isName
    · exact (hmore name hname).isName
  refine ⟨namesPhrase distinct first more gap,
    namesPhrase_isWellFormed distinct hfirst hplain hmore gap, rfl,
    columns_namesPhrase distinct first more gap, ?_, fun rest hend =>
      separated_namesPhrase distinct hgap hend hisName⟩
  rw [lexemes_namesPhrase]
  cases distinct <;> simp [write_listed, spacedWord, Token.chars, Name.chars]

/-! ### A call -/

/-- The phrase that returns a call under an alias. -/
def callPhrase (function : String) (argument : List Char) (column : String) (gap : List Char) :
    ReturnPhrase where
  word := spacedWord "RETURN"
  first := {
    expression := [named function [], ⟨.group argument, [' ']⟩]
    aliasPhrase := some ⟨spacedWord "AS", .plain column.toList, gap⟩ }

theorem lexemes_callPhrase (function : String) (argument : List Char) (column : String)
    (gap : List Char) : (callPhrase function argument column gap).lexemes =
      [spacedWord "RETURN", named function [], ⟨.group argument, [' ']⟩, spacedWord "AS",
        named column gap] := rfl

/-- **A call with an alias returns one column of this name.** -/
theorem returns_call {function column : String} {argument : List Char}
    (hfunction : IsColumnName function)
    (horder : (Token.name (.plain function.toList)).isWord "order" = false)
    (hplain : (Token.name (.plain function.toList)).isWord "distinct" = false)
    (hargument : IsGroup argument) (hcolumn : isName column = true) :
    Returns ("RETURN ".toList ++ (function.toList ++ (argument ++ (" AS ".toList ++ column.toList))))
      [column] := by
  intro gap hgap
  have hgroup : IsExpressionToken (.group argument) :=
    ⟨by simp, by simp, rfl, rfl, rfl, rfl⟩
  have hwell : (callPhrase function argument column gap).first.IsWellFormed :=
    ⟨isExpression_cons hfunction.token horder (isExpression_singleton hgroup),
      by simp [callPhrase]; decide⟩
  refine ⟨callPhrase function argument column gap, ⟨rfl, by simp [callPhrase], hwell, ⟨rfl, hplain⟩,
    by simp [callPhrase], ⟨.inl rfl, by simp [callPhrase]⟩⟩, rfl, ?_, ?_, fun rest hend => ?_⟩
  · simp [callPhrase, ReturnPhrase.columns, ItemPhrase.column, Name.meaning]
  · rw [lexemes_callPhrase]
    simp [spacedWord, named, Token.chars, Name.chars]
  · have halias : Separated [spacedWord "AS", named column gap] rest :=
      separated_spacedWord (by decide) ⟨hcolumn, hgap, Token.endsBefore_gap _ hgap hend, trivial⟩
    have hargument' : Separated [⟨.group argument, [' ']⟩, spacedWord "AS", named column gap] rest :=
      ⟨hargument, isBlankGap_space, trivial, halias⟩
    rw [lexemes_callPhrase]
    refine separated_spacedWord (by decide) ⟨hfunction.isName, isBlankGap_nil, ?_, hargument'⟩
    apply Token.endsBefore_of_startsFenced
    rw [write_cons, List.append_assoc]
    exact hargument.startsFenced _

end EntityGraph.Cypher
