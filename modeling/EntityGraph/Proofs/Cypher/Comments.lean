import EntityGraph.Proofs.Cypher.Exchange
import EntityGraph.Proofs.Cypher.Outside
import EntityGraph.Proofs.Cypher.Seam
/-!
# Comments in groups

Comments between tokens are read over, but a group is read character by
character, and a comment in it is no exception: an apostrophe or a bracket of
the comment counts. So a comment that is put into a group outside of what is
returned leaves the columns of every statement as they are exactly when its text
is balanced (`keepsColumns_iff_isGroupBody`).
-/

namespace EntityGraph.Cypher

/-- A block comment with a text. -/
def blockComment (text : List Char) : List Char :=
  '/' :: '*' :: ' ' :: (text ++ [' ', '*', '/'])

/-- A comment is balanced when its text is. -/
theorem isGroupBody_blockComment_iff {text : List Char} :
    IsGroupBody (blockComment text) ↔ IsGroupBody text := by
  constructor
  · intro h
    have hback : text ++ [' ', '*', '/'] = text ++ [' '] ++ ['*'] ++ ['/'] := by simp
    have hfront := ((h.of_cons (by decide)).of_cons (by decide)).of_cons (by decide)
    rw [hback] at hfront
    exact ((hfront.of_append_singleton (by decide)).of_append_singleton
      (by decide)).of_append_singleton (by decide)
  · intro h
    exact .plain (by decide) (.plain (by decide) (.plain (by decide)
      (h.append (isGroupBody_of_all (by decide)))))

/-- A statement and a place in one of its groups, at any depth. -/
structure GroupPlace where
  /-- The gap that the statement starts with. -/
  lead : List Char
  front : List Lexeme
  opener : Char
  closer : Char
  /-- What the group encloses in front of the place. -/
  opening : List Char
  /-- What the group encloses behind the place. -/
  closing : List Char
  gap : List Char
  back : List Lexeme

namespace GroupPlace

/-- The group with a text put at the place. -/
def groupWith (place : GroupPlace) (text : List Char) : Lexeme :=
  ⟨.group (place.opener :: (place.opening ++ (text ++ place.closing) ++ [place.closer])), place.gap⟩

/-- The lexemes with the text there. -/
def lexemesWith (place : GroupPlace) (text : List Char) : List Lexeme :=
  place.front ++ place.groupWith text :: place.back

/-- The statement with the text there. -/
def statementWith (place : GroupPlace) (text : List Char) : String :=
  String.ofList (place.lead ++ write (place.lexemesWith text))

/-- The place is at white space in a group outside of what the last word that
returns lists, and in no text and in no name between accents. -/
structure IsSound (place : GroupPlace) : Prop where
  divides : lexemes (place.statementWith []) = some (place.lexemesWith [])
  brackets : closer? place.opener = some place.closer
  /-- Any other place is in a text or a name (`IsGroupBody.isSeam_or_inside`). -/
  seam : IsSeam place.opening place.closing
  blank : (∃ c, place.opening.getLast? = some c ∧ isGapChar c = true) ∨
    ∃ c, place.closing.head? = some c ∧ isGapChar c = true
  outside : ∃ rest, (returnsOf (place.lexemesWith [])).getLast? = some rest ∧
    IsOutside (place.groupWith []) place.back rest

/-- A comment at the place changes no columns. -/
def KeepsColumns (place : GroupPlace) (text : List Char) : Prop :=
  ∀ columns, returnColumns (place.statementWith []) = .ok columns →
    returnColumns (place.statementWith (blockComment text)) = .ok columns

/-- The group with a balanced text is a group. -/
theorem IsSound.isGroup {place : GroupPlace} (h : place.IsSound) {text : List Char}
    (htext : IsGroupBody text) :
    IsGroup (place.opener :: (place.opening ++ (text ++ place.closing) ++ [place.closer])) :=
  ⟨place.opener, place.closer, _, h.brackets, h.seam.insert htext, rfl⟩

theorem returnColumns_eq_ok_iff {statement : String} {xs : List Lexeme} {columns : List String}
    (h : lexemes statement = some xs) : returnColumns statement = .ok columns ↔
      (projections xs).map lastColumns = some (.ok columns) := by
  rw [returnColumns, h, Option.bind_some]
  cases projections xs <;> simp

/-- **A balanced comment changes no columns,** if no comment is left open in
front of the group. -/
theorem IsSound.keepsColumns {place : GroupPlace} (h : place.IsSound)
    (hsettled : LeavesNoneOpen place.front) {text : List Char} (htext : IsGroupBody text) :
    place.KeepsColumns text := by
  intro columns hcolumns
  have hgroup := h.isGroup (isGroupBody_blockComment_iff.2 htext)
  have hlexemes : lexemes (place.statementWith (blockComment text)) =
      some (place.lexemesWith (blockComment text)) :=
    lexemes_exchange h.brackets hgroup hsettled h.divides
  rw [returnColumns_eq_ok_iff h.divides] at hcolumns
  rw [returnColumns_eq_ok_iff hlexemes]
  exact columns_exchange ⟨_, rfl⟩ ⟨_, rfl⟩ place.front place.back h.outside hcolumns

/-! ### Comments that are not balanced -/

/-- The place in a pattern of a name and a space, which is matched and whose name
is returned. -/
def ofPattern (opener closer : Char) : GroupPlace where
  lead := []
  front := [spacedWord "MATCH"]
  opener
  closer
  opening := ['n', ' ']
  closing := []
  gap := [' ']
  back := [spacedWord "RETURN", ⟨.name (.plain ['n']), []⟩]

variable {opener closer : Char} (hpair : closer? opener = some closer)
include hpair

theorem isSound_ofPattern : (ofPattern opener closer).IsSound where
  divides := by
    rcases closer?_eq_some_iff.1 hpair with ⟨rfl, rfl⟩ | ⟨rfl, rfl⟩ | ⟨rfl, rfl⟩ <;>
      decide +kernel
  brackets := hpair
  seam := .between (isGroupBody_of_all (show ['n', ' '].all isGroupChar = true by decide)) .nil
  blank := .inl ⟨' ', rfl, by decide⟩
  outside := by
    refine ⟨[⟨.name (.plain ['n']), []⟩], ?_, .inl ⟨[spacedWord "RETURN"], rfl⟩⟩
    rcases closer?_eq_some_iff.1 hpair with ⟨rfl, rfl⟩ | ⟨rfl, rfl⟩ | ⟨rfl, rfl⟩ <;>
      decide +kernel

theorem returnColumns_ofPattern :
    returnColumns ((ofPattern opener closer).statementWith []) = .ok ["n"] := by
  rcases closer?_eq_some_iff.1 hpair with ⟨rfl, rfl⟩ | ⟨rfl, rfl⟩ | ⟨rfl, rfl⟩ <;> decide +kernel

/-- A word and then a pattern are read one after the other. -/
theorem lexemes_word_opener {word : String} (hword : isName word = true) (cs : List Char) :
    lexemes (String.ofList ((spacedWord word).token.chars ++ ([' '] ++ opener :: cs))) =
      (lexemesFrom (opener :: cs)).map (spacedWord word :: ·) := by
  have hwell : (spacedWord word).token.IsWellFormed := hword
  have hends : (spacedWord word).token.EndsBefore ([' '] ++ opener :: cs) :=
    Token.endsBefore_gap _ isBlankGap_space (by simp)
  have hspace : scanGap ([' '] ++ opener :: cs) = ([' '], opener :: cs) :=
    scanGap_append_gap isBlankGap_space (scanGap_opener hpair cs)
  rw [lexemes, String.toList_ofList, scanGap_token hwell hends,
    lexemesFrom_append (scanToken_chars hwell hends) hspace]
  rfl

/-- Where a pattern is read some balanced body is closed. -/
theorem exists_body_of_lexemesFrom {cs : List Char} {xs : List Lexeme}
    (h : lexemesFrom (opener :: cs) = some xs) :
    ∃ body rest, IsGroupBody body ∧ cs = body ++ closer :: rest := by
  obtain ⟨t, after, hscan⟩ := exists_scanToken_of_lexemesFrom h
  rw [scanToken_opener hpair] at hscan
  obtain ⟨⟨inner, rest⟩, hinner, -⟩ := Option.map_eq_some_iff.1 hscan
  obtain ⟨body, hbody, rfl⟩ := isGroupBody_of_scanGroup hinner
  exact ⟨body, rest, hbody, by simpa using eq_of_scanGroup hinner⟩

/-- A comment in the pattern is balanced, or else it closes the pattern. -/
theorem balanced_or_closes {text : List Char} {columns : List String}
    (h : returnColumns ((ofPattern opener closer).statementWith (blockComment text)) =
      .ok columns) :
    IsGroupBody text ∨ ∃ body rest, IsGroupBody body ∧
      'n' :: ' ' :: blockComment text = body ++ closer :: rest := by
  have hstatement : (ofPattern opener closer).statementWith (blockComment text) =
      String.ofList ((spacedWord "MATCH").token.chars ++ ([' '] ++ opener ::
        ('n' :: ' ' :: blockComment text ++ closer :: " RETURN n".toList))) := by
    simp [statementWith, lexemesWith, groupWith, ofPattern, Token.chars, spacedWord, Name.chars]
  rw [returnColumns, hstatement, lexemes_word_opener hpair (by decide)] at h
  cases hxs : lexemesFrom (opener ::
      ('n' :: ' ' :: blockComment text ++ closer :: " RETURN n".toList)) with
  | none =>
    rw [hxs] at h
    simp at h
  | some xs =>
    obtain ⟨body, rest, hbody, hsplit⟩ := exists_body_of_lexemesFrom hpair hxs
    have hwhole (hall : IsGroupBody ('n' :: ' ' :: blockComment text)) : IsGroupBody text :=
      isGroupBody_blockComment_iff.1 ((hall.of_cons (by decide)).of_cons (by decide))
    rcases List.append_eq_append_iff.1 hsplit with ⟨more, rfl, hrest⟩ | ⟨more, hfront, hrest⟩
    · cases more with
      | nil => exact .inl (hwhole (by simpa using hbody))
      | cons c more =>
        -- No bracket is closed behind the pattern.
        obtain ⟨-, hrest⟩ := List.cons.inj hrest
        have hmem : closer ∈ " RETURN n".toList := by rw [hrest]; simp
        rcases closer?_eq_some_iff.1 hpair with ⟨-, rfl⟩ | ⟨-, rfl⟩ | ⟨-, rfl⟩ <;>
          exact absurd hmem (by decide)
    · cases more with
      | nil => exact .inl (hwhole (by rw [hfront, List.append_nil]; exact hbody))
      | cons c more =>
        obtain ⟨rfl, -⟩ := List.cons.inj hrest
        exact .inr ⟨body, more, hbody, hfront⟩

end GroupPlace

open GroupPlace

/-- **Comments in groups.** A comment that is put into a group of a statement,
outside of what the statement returns, leaves the columns as they are exactly
when its text is balanced, if no comment is left open in front of the group. -/
theorem keepsColumns_iff_isGroupBody (text : List Char) :
    (∀ place : GroupPlace, place.IsSound → LeavesNoneOpen place.front →
      place.KeepsColumns text) ↔ IsGroupBody text := by
  constructor
  · intro h
    have hsettled (opener closer : Char) : LeavesNoneOpen (ofPattern opener closer).front :=
      show LeavesNoneOpen [spacedWord "MATCH"] by decide
    have hpattern {opener closer : Char} (hpair : closer? opener = some closer) :=
      balanced_or_closes hpair (h _ (isSound_ofPattern hpair) (hsettled opener closer) ["n"]
        (returnColumns_ofPattern hpair))
    have hround : closer? '(' = some ')' := rfl
    have hsquare : closer? '[' = some ']' := rfl
    -- A text that closes a round bracket first does not close a square one first.
    rcases hpattern hround with hbody | ⟨body, rest, hbody, heq⟩
    · exact hbody
    · rcases hpattern hsquare with hbody' | ⟨body', rest', hbody', heq'⟩
      · exact hbody'
      · have hsame := closer_eq_of_append hround hsquare hbody hbody' (heq.symm.trans heq')
        exact absurd hsame (by decide)
  · exact fun htext place hplace hsettled => hplace.keepsColumns hsettled htext

/-- A comment with a text and brackets of its own is read over. -/
theorem keepsColumns_bracketedRemark :
    let text := "the 'first (' of [n]".toList
    let place := ofPattern '(' ')'
    IsGroupBody text ∧ place.IsSound ∧ LeavesNoneOpen place.front ∧
      place.statementWith (blockComment text) = "MATCH (n /* the 'first (' of [n] */) RETURN n" ∧
      returnColumns (place.statementWith (blockComment text)) = .ok ["n"] := by
  intro text place
  have htext : IsGroupBody text := by decide +kernel
  have hplace : place.IsSound := isSound_ofPattern rfl
  have hsettled : LeavesNoneOpen place.front := by decide
  have hkeeps : place.KeepsColumns text :=
    (keepsColumns_iff_isGroupBody text).2 htext place hplace hsettled
  exact ⟨htext, hplace, hsettled, by decide +kernel, hkeeps ["n"] (returnColumns_ofPattern rfl)⟩

/-- An apostrophe in a comment makes a statement malformed. -/
theorem not_keepsColumns_apostrophe :
    let text := "it's".toList
    let place := ofPattern '(' ')'
    ¬ ['*', '/'] <:+: text ∧ place.IsSound ∧ LeavesNoneOpen place.front ∧
      place.statementWith [] = "MATCH (n ) RETURN n" ∧
      returnColumns (place.statementWith []) = .ok ["n"] ∧
      place.statementWith (blockComment text) = "MATCH (n /* it's */) RETURN n" ∧
      returnColumns (place.statementWith (blockComment text)) = .error .malformed ∧
      ¬ place.KeepsColumns text := by
  intro text place
  have hcolumns : returnColumns (place.statementWith []) = .ok ["n"] := returnColumns_ofPattern rfl
  have hfault : returnColumns (place.statementWith (blockComment text)) = .error .malformed := by
    decide +kernel
  refine ⟨by decide, isSound_ofPattern rfl, by decide, by decide +kernel, hcolumns,
    by decide +kernel, hfault, fun hkeeps => ?_⟩
  rw [hkeeps ["n"] hcolumns] at hfault
  simp at hfault

/-- A comment that is left open in front of the group swallows its bracket. -/
example : returnColumns "MATCH (a) WHERE a.x /* (1 ) RETURN n" = .ok ["n"] ∧
    returnColumns "MATCH (a) WHERE a.x /* (1 /* c */) RETURN n" = .error .malformed := by
  decide +kernel

end EntityGraph.Cypher
