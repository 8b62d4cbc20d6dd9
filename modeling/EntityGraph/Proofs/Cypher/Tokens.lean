import EntityGraph.Proofs.Cypher.Group
/-!
# Tokens read back

Which tokens are written with characters of their kind, and what may follow
them. Such a token is read back from in front of anything that does not run on
with it: `scanToken_chars`. Both ends of it are visible characters
(`Token.exists_first`, `Token.exists_last`), so white space around a token is
never part of it.
-/

namespace EntityGraph.Cypher

open Text

/-! ### Tokens -/

/-- A token is written with characters of its kind. -/
def Token.IsWellFormed : Token → Prop
  | .name n | .lookup n | .parameter n => n.IsWellFormed
  | .literal cs => IsLiteral cs
  | .group cs => IsGroup cs
  | .positional digits => IsDigits digits
  | .number cs => IsNumeral cs
  | .operator symbol => isOperator symbol = true
  | .comma | .semicolon => True

/-- What follows a token does not run on with it: a name ends before a
character that names do not have, a point before what starts no name, and a
stroke before what would make it the start of a comment. -/
def Token.EndsBefore : Token → List Char → Prop
  | .name n, rest | .lookup n, rest | .parameter n, rest => n.EndsBefore rest
  | .positional _, rest => StopsBefore Char.isDigit rest
  | .number _, rest => StopsBefore runsOnNumber rest
  | .operator symbol, rest =>
    (symbol = '.' → StopsBefore (fun c => isNameStart c || c == accent) rest) ∧
      (symbol = '/' → StopsBefore (fun c => c == '/' || c == '*') rest)
  | .literal _, _ | .group _, _ | .comma, _ | .semicolon, _ => True

/-- Scanning stops at what follows a token. Less is asked than that it does not
run on with it: a number may stop before a letter, and a stroke before
anything. -/
def Token.StopsAt : Token → List Char → Prop
  | .name n, rest | .lookup n, rest | .parameter n, rest => n.EndsBefore rest
  | .positional _, rest => StopsBefore Char.isDigit rest
  | .number cs, rest => scanNumber (cs ++ rest) = (cs, rest)
  | .operator symbol, rest => symbol = '.' → scanName rest = none
  | .literal _, _ | .group _, _ | .comma, _ | .semicolon, _ => True

theorem Token.EndsBefore.stopsAt {t : Token} {rest : List Char} (ht : t.IsWellFormed)
    (h : t.EndsBefore rest) : t.StopsAt rest := by
  cases t with
  | name n | lookup n | parameter n | positional digits => exact h
  | number cs => exact scanNumber_numeral ht h
  | operator symbol => exact fun hdot => scanName_eq_none (h.1 hdot)
  | literal cs | group cs | comma | semicolon => trivial

theorem isOperator_iff {c : Char} : isOperator c = true ↔ c = '<' ∨ c = '>' ∨ c = '=' ∨ c = '+' ∨
    c = '-' ∨ c = '*' ∨ c = '/' ∨ c = '%' ∨ c = '^' ∨ c = ':' ∨ c = '|' ∨ c = '!' ∨ c = '~' ∨
    c = '&' ∨ c = '.' := by
  simp [isOperator]

theorem scanToken_name {name : Name} {rest : List Char} (hname : name.IsWellFormed)
    (hrest : name.EndsBefore rest) : scanToken (name.chars ++ rest) = some (.name name, rest) := by
  have hscan := scanName_chars hname hrest
  have hstart : ∃ c cs, name.chars ++ rest = c :: cs ∧ (isNameStart c || c = accent) = true := by
    cases name with
    | plain cs =>
      cases cs with
      | nil => simp [Name.IsWellFormed, isNameChars] at hname
      | cons c cs =>
        simp only [Name.IsWellFormed, isNameChars, Bool.and_eq_true] at hname
        exact ⟨c, cs ++ rest, rfl, by simp [hname.1]⟩
    | escaped content => exact ⟨accent, Name.doubled content ++ accent :: rest, by simp [Name.chars],
        by simp⟩
  obtain ⟨c, cs, hcs, hc⟩ := hstart
  rw [hcs] at hscan ⊢
  simp [scanToken, hc, hscan]

/-- A number starts with a digit. -/
theorem IsNumeral.exists_cons {cs : List Char} (h : IsNumeral cs) :
    ∃ c tail, cs = c :: tail ∧ c.isDigit = true := by
  obtain ⟨whole, fraction, exponent, ⟨hne, hdigits⟩, -, -, rfl⟩ := h
  cases whole with
  | nil => exact absurd rfl hne
  | cons c whole => exact ⟨c, whole ++ (fraction ++ exponent), rfl, hdigits c (by simp)⟩

theorem scanToken_number {cs rest : List Char} (h : IsNumeral cs)
    (hscan : scanNumber (cs ++ rest) = (cs, rest)) :
    scanToken (cs ++ rest) = some (.number cs, rest) := by
  obtain ⟨c, tail, rfl, hc⟩ := h.exists_cons
  have haccent : c ≠ accent := by rintro rfl; exact absurd hc (by decide)
  rw [List.cons_append] at hscan ⊢
  simp [scanToken, isNameStart_of_isDigit hc, haccent, hc, hscan]

theorem scanToken_literal {text rest : List Char} (h : IsLiteral text) :
    scanToken (text ++ rest) = some (.literal text, rest) := by
  obtain ⟨quote, body, hquote, hbody, rfl⟩ := h
  have hscan : scanLiteral quote (body ++ quote :: rest) = some (body ++ [quote], rest) :=
    scanLiteral_body hquote hbody
  have hstart : (isNameStart quote || decide (quote = accent)) = false ∧
      quote.isDigit = false := by
    simp only [isQuote, Bool.or_eq_true, decide_eq_true_eq] at hquote
    rcases hquote with rfl | rfl <;> decide
  simp [scanToken, hstart.1, hstart.2, hquote, hscan]

/-- A bracket starts a group. -/
theorem scanToken_opener {opener closer : Char} (hpair : closer? opener = some closer)
    (cs : List Char) : scanToken (opener :: cs) =
      (scanGroup ⟨[closer], .code⟩ cs).map fun (inner, rest) =>
        (.group (opener :: inner), rest) := by
  have hstart : ((isNameStart opener || decide (opener = accent)) = false ∧
      opener.isDigit = false) ∧ isQuote opener = false ∧ opener ≠ '$' := by
    rcases opener_cases hpair with rfl | rfl | rfl <;> decide
  simp [scanToken, hstart, hpair]

theorem scanToken_group {cs rest : List Char} (h : IsGroup cs) :
    scanToken (cs ++ rest) = some (.group cs, rest) := by
  obtain ⟨opener, closer, inner, hpair, hinner, rfl⟩ := h
  have hscan : scanGroup ⟨[closer], .code⟩ (inner ++ closer :: rest) =
      some (inner ++ [closer], rest) := scanGroup_body hpair hinner
  simp [scanToken_opener hpair, hscan]

theorem scanToken_dollar (cs : List Char) : scanToken ('$' :: cs) = scanParameter cs := by
  have hstart : ((isNameStart '$' || decide ('$' = accent)) = false ∧ '$'.isDigit = false) ∧
      isQuote '$' = false := by decide
  simp [scanToken, hstart]

theorem scanToken_positional {digits rest : List Char} (h : IsDigits digits)
    (hrest : StopsBefore Char.isDigit rest) :
    scanToken ('$' :: (digits ++ rest)) = some (.positional digits, rest) := by
  obtain ⟨hne, hdigits⟩ := h
  have hnone : scanName (digits ++ rest) = none := by
    cases digits with
    | nil => exact absurd rfl hne
    | cons c cs =>
      have hc : c.isDigit = true := hdigits c (by simp)
      have haccent : c ≠ accent := by rintro rfl; exact absurd hc (by decide)
      exact scanName_eq_none (by simp [isNameStart_of_isDigit hc, haccent])
  simp [scanToken_dollar, scanParameter, hnone, scanDigits_append_stop hdigits hrest, hne]

/-- A character that no token but a symbol starts with. -/
theorem scanToken_symbol {c : Char} {cs : List Char} (hc : isOperator c = true ∨ c = ',' ∨ c = ';')
    (hpoint : c = '.' → scanName cs = none) : scanToken (c :: cs) = scanSymbol c cs := by
  have hstart : ((isNameStart c || decide (c = accent)) = false ∧ c.isDigit = false) ∧
      (isQuote c = false ∧ c ≠ '$') ∧ closer? c = none := by
    rcases hc with hc | rfl | rfl
    · rcases isOperator_iff.1 hc with rfl | rfl | rfl | rfl | rfl | rfl | rfl | rfl | rfl | rfl |
        rfl | rfl | rfl | rfl | rfl <;> decide
    · decide
    · decide
  by_cases hdot : c = '.'
  · subst hdot
    simp [scanToken, hstart, hpoint rfl]
  · simp [scanToken, hstart, hdot]

theorem scanToken_lookup {name : Name} {rest : List Char} (hname : name.IsWellFormed)
    (hrest : name.EndsBefore rest) :
    scanToken ('.' :: (name.chars ++ rest)) = some (.lookup name, rest) := by
  have hstart : ((isNameStart '.' || decide ('.' = accent)) = false ∧ '.'.isDigit = false) ∧
      (isQuote '.' = false ∧ '.' ≠ '$') ∧ closer? '.' = none := by decide
  simp [scanToken, hstart, scanName_chars hname hrest]

/-- A token is read back from in front of anything that scanning stops at. -/
theorem scanToken_of_stopsAt {t : Token} {rest : List Char} (ht : t.IsWellFormed)
    (hrest : t.StopsAt rest) : scanToken (t.chars ++ rest) = some (t, rest) := by
  cases t with
  | name n => exact scanToken_name ht hrest
  | literal cs => exact scanToken_literal ht
  | group cs => exact scanToken_group ht
  | lookup n => exact scanToken_lookup ht hrest
  | parameter n =>
    rw [Token.chars, List.cons_append, scanToken_dollar, scanParameter, scanName_chars ht hrest]
  | positional digits => exact scanToken_positional ht hrest
  | number cs => exact scanToken_number ht hrest
  | operator symbol =>
    have hoperator : isOperator symbol = true := ht
    -- The symbols that are tokens of their own are no operators.
    have hcomma : symbol ≠ ',' := by rintro rfl; exact absurd hoperator (by decide)
    have hsemicolon : symbol ≠ ';' := by rintro rfl; exact absurd hoperator (by decide)
    rw [Token.chars, List.singleton_append, scanToken_symbol (.inl hoperator) hrest, scanSymbol,
      if_neg hcomma, if_neg hsemicolon, if_pos hoperator]
  | comma =>
    rw [Token.chars, List.singleton_append, scanToken_symbol (by simp) (by simp)]
    rfl
  | semicolon =>
    rw [Token.chars, List.singleton_append, scanToken_symbol (by simp) (by simp)]
    rfl

/-- **A token is read back** from in front of anything that does not run on
with it. -/
theorem scanToken_chars {t : Token} {rest : List Char} (ht : t.IsWellFormed)
    (hrest : t.EndsBefore rest) : scanToken (t.chars ++ rest) = some (t, rest) :=
  scanToken_of_stopsAt ht (hrest.stopsAt ht)

/-! ### The ends of a token -/

theorem isVisibleChar_of_isNameStart {c : Char} (h : isNameStart c = true) : IsVisibleChar c := by
  rcases isNameStart_iff_toNat.1 h with hletter | rfl
  · unfold IsVisibleChar; omega
  · decide

theorem isVisibleChar_of_isNameChar {c : Char} (h : isNameChar c = true) : IsVisibleChar c := by
  rw [isNameChar_eq, Bool.or_eq_true] at h
  exact h.elim isVisibleChar_of_isNameStart isVisibleChar_of_isDigit

theorem isVisibleChar_of_isOperator {c : Char} (h : isOperator c = true) : IsVisibleChar c := by
  rcases isOperator_iff.1 h with rfl | rfl | rfl | rfl | rfl | rfl | rfl | rfl | rfl | rfl |
    rfl | rfl | rfl | rfl | rfl <;> decide

/-- A token starts with a visible character; only the stroke starts with a
stroke. -/
theorem Token.exists_first {t : Token} (h : t.IsWellFormed) :
    ∃ c cs, t.chars = c :: cs ∧ IsVisibleChar c ∧ (c = '/' → t = .operator '/') := by
  have hname {n : Name} (hn : n.IsWellFormed) :
      ∃ c cs, n.chars = c :: cs ∧ IsVisibleChar c ∧ c ≠ '/' := by
    cases n with
    | plain cs =>
      cases cs with
      | nil => simp [Name.IsWellFormed, isNameChars] at hn
      | cons c cs =>
        obtain ⟨hc, -⟩ : isNameStart c = true ∧ _ := by
          simpa only [Name.IsWellFormed, isNameChars, Bool.and_eq_true] using hn
        refine ⟨c, cs, rfl, isVisibleChar_of_isNameStart hc, ?_⟩
        rintro rfl
        exact absurd hc (by decide)
    | escaped content => exact ⟨accent, _, rfl, by decide, by decide⟩
  cases t with
  | name n =>
    obtain ⟨c, cs, hcs, hc, hne⟩ := hname h
    exact ⟨c, cs, hcs, hc, fun heq => absurd heq hne⟩
  | literal cs =>
    obtain ⟨quote, body, hquote, -, rfl⟩ := h
    simp only [isQuote, Bool.or_eq_true, decide_eq_true_eq] at hquote
    rcases hquote with rfl | rfl <;> exact ⟨_, _, rfl, by decide, fun heq => absurd heq (by decide)⟩
  | group cs =>
    obtain ⟨opener, closer, inner, hpair, -, rfl⟩ := h
    rcases closer?_eq_some_iff.1 hpair with ⟨rfl, -⟩ | ⟨rfl, -⟩ | ⟨rfl, -⟩ <;>
      exact ⟨_, _, rfl, by decide, fun heq => absurd heq (by decide)⟩
  | lookup n => exact ⟨'.', _, rfl, by decide, fun heq => absurd heq (by decide)⟩
  | parameter n => exact ⟨'$', _, rfl, by decide, fun heq => absurd heq (by decide)⟩
  | positional digits => exact ⟨'$', _, rfl, by decide, fun heq => absurd heq (by decide)⟩
  | number cs =>
    obtain ⟨c, tail, rfl, hc⟩ := IsNumeral.exists_cons h
    refine ⟨c, tail, rfl, isVisibleChar_of_isDigit hc, ?_⟩
    rintro rfl
    exact absurd hc (by decide)
  | operator symbol =>
    exact ⟨symbol, [], rfl, isVisibleChar_of_isOperator h, fun heq => by rw [heq]⟩
  | comma => exact ⟨',', [], rfl, by decide, fun heq => absurd heq (by decide)⟩
  | semicolon => exact ⟨';', [], rfl, by decide, fun heq => absurd heq (by decide)⟩

theorem IsDigits.exists_last {cs : List Char} (h : IsDigits cs) :
    ∃ init c, cs = init ++ [c] ∧ IsVisibleChar c := by
  obtain ⟨hne, hdigits⟩ := h
  refine ⟨cs.dropLast, cs.getLast hne, (List.dropLast_concat_getLast hne).symm, ?_⟩
  exact isVisibleChar_of_isDigit (hdigits _ (List.getLast_mem hne))

theorem Name.exists_last {n : Name} (h : n.IsWellFormed) :
    ∃ init c, n.chars = init ++ [c] ∧ IsVisibleChar c := by
  cases n with
  | plain cs =>
    cases cs with
    | nil => simp [Name.IsWellFormed, isNameChars] at h
    | cons c cs =>
      obtain ⟨hc, hcs⟩ : isNameStart c = true ∧ ∀ d ∈ cs, isNameChar d = true := by
        simpa [Name.IsWellFormed, isNameChars] using h
      have hne : c :: cs ≠ [] := by simp
      refine ⟨(c :: cs).dropLast, (c :: cs).getLast hne,
        (List.dropLast_concat_getLast hne).symm, ?_⟩
      rcases List.mem_cons.1 (List.getLast_mem hne) with heq | hmem
      · rw [heq]
        exact isVisibleChar_of_isNameStart hc
      · exact isVisibleChar_of_isNameChar (hcs _ hmem)
  | escaped content => exact ⟨accent :: Name.doubled content, accent, rfl, by decide⟩

/-- A token ends with a visible character. -/
theorem Token.exists_last {t : Token} (h : t.IsWellFormed) :
    ∃ init c, t.chars = init ++ [c] ∧ IsVisibleChar c := by
  have hcons {c : Char} {cs : List Char} (hcs : ∃ init d, cs = init ++ [d] ∧ IsVisibleChar d) :
      ∃ init d, c :: cs = init ++ [d] ∧ IsVisibleChar d := by
    obtain ⟨init, d, rfl, hd⟩ := hcs
    exact ⟨c :: init, d, rfl, hd⟩
  cases t with
  | name n => exact Name.exists_last h
  | literal cs =>
    obtain ⟨quote, body, hquote, -, rfl⟩ := h
    simp only [isQuote, Bool.or_eq_true, decide_eq_true_eq] at hquote
    rcases hquote with rfl | rfl <;> exact ⟨_ :: body, _, rfl, by decide⟩
  | group cs =>
    obtain ⟨opener, closer, inner, hpair, -, rfl⟩ := h
    rcases closer?_eq_some_iff.1 hpair with ⟨-, rfl⟩ | ⟨-, rfl⟩ | ⟨-, rfl⟩ <;>
      exact ⟨opener :: inner, _, rfl, by decide⟩
  | lookup n => exact hcons (Name.exists_last h)
  | parameter n => exact hcons (Name.exists_last h)
  | positional digits => exact hcons (IsDigits.exists_last h)
  | number cs =>
    obtain ⟨whole, fraction, exponent, hwhole, hfraction, hexponent, rfl⟩ := h
    rcases hexponent with rfl | ⟨letter, sign, digits, -, -, hdigits, rfl⟩
    · rcases hfraction with rfl | ⟨digits, hdigits, rfl⟩
      · simpa [Token.chars] using hwhole.exists_last
      · obtain ⟨init, c, rfl, hc⟩ := hdigits.exists_last
        exact ⟨whole ++ '.' :: init, c, by simp [Token.chars], hc⟩
    · obtain ⟨init, c, rfl, hc⟩ := hdigits.exists_last
      exact ⟨whole ++ (fraction ++ letter :: (sign ++ init)), c, by simp [Token.chars], hc⟩
  | operator symbol => exact ⟨[], symbol, rfl, isVisibleChar_of_isOperator h⟩
  | comma => exact ⟨[], ',', rfl, by decide⟩
  | semicolon => exact ⟨[], ';', rfl, by decide⟩

end EntityGraph.Cypher
