import EntityGraph.Proofs.Cypher.Returning
/-!
# Names that are words

What becomes of a list of names when one of them is a word of the language. A
name that ends expressions cuts the list off in front of itself
(`returnColumns_cut`). The word that returns, as an alias before the list, is
taken for a second place that returns: then the statement is malformed
(`returnColumns_returning_comma`) or its first column is none of the names
(`returnColumns_returning_last`).
-/

namespace EntityGraph.Cypher

open Text (join)

/-- A token that reading passes over until something returns. -/
def IsPassedToken (t : Token) : Prop :=
  t ≠ .semicolon ∧ t.isWord "return" = false

theorem IsClauseToken.passed {t : Token} (h : IsClauseToken t) : IsPassedToken t :=
  ⟨h.1, h.2.1⟩

/-- The words that end expressions by themselves. -/
def endingWords : List String :=
  ["as", "skip", "limit", "union"]

/-- A name that is one of them, in any case. -/
def IsEndingName (name : String) : Prop :=
  ∃ word ∈ endingWords, (Token.name (.plain name.toList)).isWord word = true

theorem IsEndingName.endsExpression {name : String} (h : IsEndingName name) (gap : List Char)
    (rest : List Lexeme) : endsExpression (named name gap :: rest) = true := by
  obtain ⟨word, hmem, hword⟩ := h
  simp only [endingWords, List.mem_cons, List.not_mem_nil, or_false] at hmem
  rcases hmem with rfl | rfl | rfl | rfl <;>
    simp [Cypher.endsExpression, startsTail, startsWithWord, named, hword]

theorem isColumnName_of_not_ending {name : String} (hname : isName name = true)
    (h : ¬ IsEndingName name) : IsColumnName name := by
  have hword : ∀ word ∈ endingWords, (Token.name (.plain name.toList)).isWord word = false := by
    intro word hmem
    rw [Bool.eq_false_iff]
    exact fun hword => h ⟨word, hmem, hword⟩
  exact ⟨hname, by simp, by simp, hword _ (by decide), hword _ (by decide), hword _ (by decide),
    hword _ (by decide)⟩

/-- Names are cut at the first that ends expressions, if there is one. -/
theorem names_cases {names : List String} (h : ∀ name ∈ names, isName name = true) :
    (∀ name ∈ names, IsColumnName name) ∨ ∃ good bad rest, names = good ++ bad :: rest ∧
      (∀ name ∈ good, IsColumnName name) ∧ IsEndingName bad := by
  induction names with
  | nil => exact .inl (by simp)
  | cons name names ih =>
    by_cases hname : IsEndingName name
    · exact .inr ⟨[], name, names, rfl, by simp, hname⟩
    · have hcolumn := isColumnName_of_not_ending (h name (by simp)) hname
      rcases ih fun n hn => h n (List.mem_cons_of_mem name hn) with hall | ⟨good, bad, rest, rfl, hgood, hbad⟩
      · exact .inl (List.forall_mem_cons.2 ⟨hcolumn, hall⟩)
      · exact .inr ⟨name :: good, bad, rest, rfl, List.forall_mem_cons.2 ⟨hcolumn, hgood⟩, hbad⟩

theorem listed_append (gap : List Char) (first : String) (more : List String) (bad : String)
    (rest : List String) : listed gap (first :: (more ++ bad :: rest)) =
      listed [] (first :: more) ++ spacedComma :: listed gap (bad :: rest) := by
  induction more generalizing first with
  | nil => rfl
  | cons next more ih =>
    have htail := ih next
    rw [List.cons_append, listed, htail]
    rfl

theorem exists_listed_cons (gap : List Char) (name : String) (names : List String) :
    ∃ g rest, listed gap (name :: names) = named name g :: rest := by
  cases names with
  | nil => exact ⟨gap, [], rfl⟩
  | cons next names => exact ⟨[], _, rfl⟩

/-- A list of names ends in front of the first that ends expressions. -/
theorem endsItems_comma {bad : String} (hbad : IsEndingName bad) (gap : List Char)
    (rest : List String) (ys : List Lexeme) :
    EndsItems (spacedComma :: (listed gap (bad :: rest) ++ ys)) := by
  obtain ⟨g, more, hlisted⟩ := exists_listed_cons gap bad rest
  refine ⟨rfl, rfl, scanMoreItems_stop rfl ?_⟩
  rw [hlisted, List.cons_append]
  exact hbad.endsExpression g _

theorem isPassedToken_comma : IsPassedToken spacedComma.token :=
  ⟨by simp [spacedComma], rfl⟩

/-- A comma starts no ordering and no limit. -/
theorem skipTail_comma (rest : List Lexeme) :
    skipTail (spacedComma :: rest) = spacedComma :: rest := by
  cases rest <;> rfl

theorem isPassed_listed {gap : List Char} {names : List String}
    (h : ∀ name ∈ names, IsPassedToken (.name (.plain name.toList))) :
    ∀ x ∈ listed gap names, IsPassedToken x.token := by
  induction names with
  | nil => simp [listed]
  | cons name names ih =>
    have htail := ih fun n hn => h n (List.mem_cons_of_mem name hn)
    cases names with
    | nil => simpa [listed, named] using h name (by simp)
    | cons next names =>
      intro x hx
      rcases List.mem_cons.1 hx with rfl | hx
      · exact h name (by simp)
      · rcases List.mem_cons.1 hx with rfl | hx
        · exact isPassedToken_comma
        · exact htail x hx

/-- What is passed over gives no projections. -/
theorem projections_passed {xs : List Lexeme} (h : ∀ x ∈ xs, IsPassedToken x.token) :
    projections xs = some [] := by
  have hskip : projections (xs ++ []) = projections [] := projections_skip h
  rwa [List.append_nil, projections_nil] at hskip

/-- The columns of the items of a list of names. -/
theorem columns_items_namesPhrase {first : String} {more : List String} {gap : List Char}
    (hgap : IsBlankGap gap) (hfirst : IsColumnName first)
    (hplain : (Token.name (.plain first.toList)).isWord "distinct" = false)
    (hmore : ∀ name ∈ more, IsColumnName name) :
    (namesPhrase true first more gap).items.map Item.column = first :: more := by
  have hname : ∀ name ∈ first :: more, isName name = true :=
    List.forall_mem_cons.2 ⟨hfirst.isName, fun name hname => (hmore name hname).isName⟩
  have hseparated : Separated (namesPhrase true first more gap).lexemes [] :=
    separated_namesPhrase true hgap (fun _ => rfl) hname
  rw [columns_items (namesPhrase_isWellFormed true hfirst hplain hmore gap) fun x hx =>
    hseparated.of_mem hx, columns_namesPhrase]

theorem scanProjection_names (gap : List Char) {first : String} {more : List String}
    {after : List Lexeme} (hfirst : IsColumnName first)
    (hplain : (Token.name (.plain first.toList)).isWord "distinct" = false)
    (hmore : ∀ name ∈ more, IsColumnName name) (hafter : EndsItems after) :
    scanProjection (spacedWord "DISTINCT" :: (listed gap (first :: more) ++ after)) =
      some (.items (namesPhrase true first more gap).items, skipTail after) := by
  have hscan := scanProjection_items (namesPhrase_isWellFormed true hfirst hplain hmore gap) hafter
  rw [← moreLexemes_moreNames]
  simpa [namesPhrase, nameItem, ItemPhrase.lexemes] using hscan

/-- **A name that ends expressions cuts the list off.** -/
theorem returnColumns_cut {text first bad : String} {good rest : List String} {gap : List Char}
    {xs ys : List Lexeme}
    (htext : lexemes text = some (xs ++ spacedWord "RETURN" :: spacedWord "DISTINCT" ::
      (listed gap (first :: (good ++ bad :: rest)) ++ ys)))
    (hxs : ∀ x ∈ xs, IsPassedToken x.token) (hfirst : IsColumnName first)
    (hplain : (Token.name (.plain first.toList)).isWord "distinct" = false)
    (hgood : ∀ name ∈ good, IsColumnName name) (hbad : IsEndingName bad)
    (hrest : ∀ name ∈ bad :: rest, IsPassedToken (.name (.plain name.toList)))
    (hys : ∀ y ∈ ys, IsPassedToken y.token) : returnColumns text = .ok (first :: good) := by
  have hscan := scanProjection_names [] hfirst hplain hgood (endsItems_comma hbad gap rest ys)
  have hafter : projections (spacedComma :: (listed gap (bad :: rest) ++ ys)) = some [] := by
    refine projections_passed fun x hx => ?_
    rcases List.mem_cons.1 hx with rfl | hx
    · exact isPassedToken_comma
    · rcases List.mem_append.1 hx with hx | hx
      · exact isPassed_listed hrest x hx
      · exact hys x hx
  have hsplit : listed gap (first :: (good ++ bad :: rest)) ++ ys =
      listed [] (first :: good) ++ spacedComma :: (listed gap (bad :: rest) ++ ys) := by
    rw [listed_append, List.append_assoc, List.cons_append]
  rw [returnColumns, htext, Option.bind_some, projections_skip hxs, hsplit,
    projections_return (by decide), hscan, Option.bind_some]
  simp only [skipTail_comma, hafter, Option.map_some, lastColumns,
    columns_items_namesPhrase isBlankGap_nil hfirst hplain hgood]

/-! ### The word that returns -/

/-- A word that returns is not followed by a comma. -/
theorem projections_return_comma {ret comma : Lexeme} {rest : List Lexeme}
    (hret : ret.token.isWord "return" = true) (hcomma : comma.token = .comma) :
    projections (ret :: comma :: rest) = none := by
  have hscan : scanProjection (comma :: rest) = none := by
    simp [scanProjection, skipDistinct, startsWithWord, startsWithStar, scanItem, splitExpression,
      endsExpression, hcomma]
  rw [projections_return hret, hscan, Option.bind_none]

/-- Nor by nothing, or by what orders and limits. -/
theorem projections_return_tail {ret : Lexeme} {ys : List Lexeme}
    (hret : ret.token.isWord "return" = true) (hys : IsTail ys) :
    projections (ret :: ys) = none := by
  have hscan : scanProjection ys = none := by
    cases ys with
    | nil => rfl
    | cons y ys =>
      have hstarts : startsTail (y :: ys) = true := hys.starts.resolve_left (by simp)
      obtain ⟨hdistinct, cs, hcs⟩ := isWord_of_startsTail hstarts (by decide : "distinct" ∉ _)
      have hstar : y.token ≠ .operator '*' := by simp [hcs]
      have hends : endsExpression (y :: ys) = true := by simp [endsExpression, hstarts]
      simp [scanProjection, skipDistinct, startsWithWord, startsWithStar, scanItem,
        splitExpression, hends, hdistinct, hstar]
  rw [projections_return hret, hscan, Option.bind_none]

/-- **The word that returns before a comma makes a statement malformed.** -/
theorem returnColumns_returning_comma {text : String} {xs rest : List Lexeme} {ret comma : Lexeme}
    (htext : lexemes text = some (xs ++ ret :: comma :: rest))
    (hxs : ∀ x ∈ xs, IsPassedToken x.token) (hret : ret.token.isWord "return" = true)
    (hcomma : comma.token = .comma) : returnColumns text = .error .malformed := by
  rw [returnColumns, htext, Option.bind_some, projections_skip hxs,
    projections_return_comma hret hcomma]

/-- The phrase that is read where a word that returns is followed by the line
that does: the start of this line becomes part of the first expression. -/
def swallowingPhrase (ret : Lexeme) (gap : List Char) (first : String) (more : List String) :
    ReturnPhrase where
  word := ret
  first := {
    expression := [spacedWord "RETURN", spacedWord "DISTINCT",
      named first (if more.isEmpty then gap else [])] }
  more := moreNames gap more

theorem swallowingPhrase_isWellFormed {ret : Lexeme} (hret : ret.token.isWord "return" = true)
    (gap : List Char) {first : String} {more : List String} (hfirst : IsColumnName first)
    (hmore : ∀ name ∈ more, IsColumnName name) :
    (swallowingPhrase ret gap first more).IsWellFormed := by
  have hexpression : IsExpression [spacedWord "RETURN", spacedWord "DISTINCT",
      named first (if more.isEmpty then gap else [])] :=
    isExpression_cons (by decide) (by decide) (isExpression_cons (by decide) (by decide)
      (isExpression_singleton hfirst.token))
  refine ⟨hret, by simp [swallowingPhrase], ⟨hexpression, by simp [swallowingPhrase]⟩,
    ⟨rfl, by simp [swallowingPhrase, startsWithWord]; decide⟩, ?_,
    ⟨.inl rfl, by simp [swallowingPhrase]⟩⟩
  intro e he
  obtain ⟨hcomma, name, hname, g, hg⟩ := mem_moreNames he
  exact ⟨by rw [hcomma]; rfl, hg ▸ (hmore name hname).item g⟩

theorem scanProjection_swallowing {ret : Lexeme} (hret : ret.token.isWord "return" = true)
    (gap : List Char) {first : String} {more : List String} {after : List Lexeme}
    (hfirst : IsColumnName first) (hmore : ∀ name ∈ more, IsColumnName name)
    (hafter : EndsItems after) :
    scanProjection (spacedWord "RETURN" :: spacedWord "DISTINCT" ::
      (listed gap (first :: more) ++ after)) =
      some (.items (swallowingPhrase ret gap first more).items, skipTail after) := by
  have hscan := scanProjection_items (swallowingPhrase_isWellFormed hret gap hfirst hmore) hafter
  rw [← moreLexemes_moreNames]
  simpa [swallowingPhrase, ItemPhrase.lexemes] using hscan

/-- What starts the line stands in its first column. -/
theorem column_swallowing {ret : Lexeme} (hret : ret.token.isWord "return" = true)
    {gap : List Char} (hgap : IsBlankGap gap) {first : String} {more : List String}
    (hfirst : IsColumnName first) (hmore : ∀ name ∈ more, IsColumnName name) :
    (swallowingPhrase ret gap first more).first.toItem.column = "RETURN DISTINCT " ++ first := by
  have hlexemes : ∀ x ∈ (swallowingPhrase ret gap first more).first.lexemes,
      x.token.IsWellFormed ∧ IsBlankGap x.gap := by
    have hword {word : String} (h : isName word = true) :
        (spacedWord word).token.IsWellFormed ∧ IsBlankGap (spacedWord word).gap :=
      ⟨h, isBlankGap_space⟩
    have hnamed : (named first (if more.isEmpty then gap else [])).token.IsWellFormed ∧
        IsBlankGap (named first (if more.isEmpty then gap else [])).gap := by
      refine ⟨hfirst.isName, ?_⟩
      simp only [named]
      split
      · exact hgap
      · exact isBlankGap_nil
    exact List.forall_mem_cons.2 ⟨hword (by decide), List.forall_mem_cons.2
      ⟨hword (by decide), List.forall_mem_singleton.2 hnamed⟩⟩
  rw [column_toItem (swallowingPhrase_isWellFormed hret gap hfirst hmore).first hlexemes,
    ← String.toList_inj]
  simp [swallowingPhrase, ItemPhrase.column, spelled, spacedWord, named, Lexeme.chars, Token.chars,
    Name.chars]

/-- A list of names that ends with the word that returns gives nothing, since
nothing comes after the word. -/
theorem projections_listed_returning {last : String} {names : List String} {ys : List Lexeme}
    (gap : List Char) (hnames : ∀ name ∈ names, IsPassedToken (.name (.plain name.toList)))
    (hlast : (Token.name (.plain last.toList)).isWord "return" = true) (hys : IsTail ys)
    (hne : names ≠ []) :
    projections (spacedComma :: (listed gap (names ++ [last]) ++ ys)) = none := by
  cases names with
  | nil => exact absurd rfl hne
  | cons bad rest =>
    have hskip : ∀ x ∈ spacedComma :: (listed [] (bad :: rest) ++ [spacedComma]),
        IsPassedToken x.token :=
      List.forall_mem_cons.2 ⟨isPassedToken_comma, List.forall_mem_append.2
        ⟨isPassed_listed hnames, List.forall_mem_singleton.2 isPassedToken_comma⟩⟩
    have hsplit : spacedComma :: (listed gap (bad :: rest ++ [last]) ++ ys) =
        (spacedComma :: (listed [] (bad :: rest) ++ [spacedComma])) ++ named last gap :: ys := by
      rw [List.cons_append, listed_append]
      simp [listed]
    have hword : (named last gap).token.isWord "return" = true := hlast
    rw [hsplit, projections_skip hskip, projections_return_tail hword hys]

/-- **The word that returns in front of the line that does** spoils the first
column, if the statement can be read at all. -/
theorem returnColumns_returning_last {text first last : String} {good : List String}
    {gap : List Char} {xs ys : List Lexeme} {ret : Lexeme}
    (htext : lexemes text = some (xs ++ ret :: spacedWord "RETURN" :: spacedWord "DISTINCT" ::
      (listed gap (first :: (good ++ [last])) ++ ys)))
    (hxs : ∀ x ∈ xs, IsPassedToken x.token) (hret : ret.token.isWord "return" = true)
    (hfirst : IsColumnName first) (hgood : ∀ name ∈ good, isName name = true ∧
      IsPassedToken (.name (.plain name.toList)))
    (hlast : isName last = true ∧ (Token.name (.plain last.toList)).isWord "return" = true)
    (hgap : IsBlankGap gap) (hys : IsTail ys) :
    returnColumns text = .error .malformed ∨
      ∃ columns, returnColumns text = .ok (("RETURN DISTINCT " ++ first) :: columns) := by
  rw [returnColumns, htext, Option.bind_some, projections_skip hxs, projections_return hret]
  rcases names_cases fun name hname => (hgood name hname).1 with
    hall | ⟨before, bad, rest, rfl, hbefore, hbad⟩
  -- Every name is read, and then nothing is left.
  · have hmore : ∀ name ∈ good ++ [last], IsColumnName name := by
      refine List.forall_mem_append.2 ⟨hall, List.forall_mem_singleton.2 ?_⟩
      refine ⟨hlast.1, by simp, by simp, ?_, ?_, ?_, ?_⟩ <;>
        exact Token.isWord_of_ne hlast.2 (by decide)
    have hnone : EndsPart [] := by simp [EndsPart]
    have hitems : EndsItems ys := by simpa using endsItems_tail hys hnone
    have hskip : skipTail ys = [] := by simpa using skipTail_tail hys hnone
    rw [scanProjection_swallowing hret gap hfirst hmore hitems, hskip, Option.bind_some]
    simp only [projections_nil, Option.map_some, lastColumns]
    have hcolumn := column_swallowing hret hgap hfirst hmore
    exact .inr ⟨_, congrArg Except.ok (congrArg (· :: _) hcolumn)⟩
  -- Some name cuts the list off, and the word is met again with nothing to return.
  · have hpassed : ∀ name ∈ bad :: rest, IsPassedToken (.name (.plain name.toList)) :=
      fun name hname => (hgood name (List.mem_append_right before hname)).2
    have hitems := endsItems_comma hbad gap (rest ++ [last]) ys
    have hsplit : listed gap (first :: (before ++ bad :: rest ++ [last])) ++ ys =
        listed [] (first :: before) ++ spacedComma :: (listed gap (bad :: (rest ++ [last])) ++ ys) := by
      rw [List.append_assoc, List.cons_append, listed_append, List.append_assoc, List.cons_append]
    have hafter := projections_listed_returning gap hpassed hlast.2 hys (by simp)
    rw [List.cons_append] at hafter
    rw [hsplit, scanProjection_swallowing hret [] hfirst hbefore hitems, skipTail_comma,
      Option.bind_some]
    simp only [hafter, Option.map_none]
    exact .inl trivial

end EntityGraph.Cypher
