import EntityGraph.Schema.Name
/-!
# Tokens

A statement divided into tokens, each with the gap of blanks and comments that
follows it. Nothing else is lost: the tokens and gaps, put together, are the
statement again (`eq_of_lexemes`). A bracketed group with all that it encloses
is one token, so what is looked for among the tokens of a statement is never
found inside brackets or quotes.
-/

namespace EntityGraph.Cypher

/-- The grave accent that encloses names of any characters. -/
def accent : Char := '\x60'

/-- The apostrophe, one of the two quotes of texts. -/
def apostrophe : Char := '\x27'

/-- A name, either plain or between accents. -/
inductive Name where
  | plain (chars : List Char)
  | escaped (content : List Char)
deriving DecidableEq, Repr

namespace Name

/-- A content with every accent written twice. -/
def doubled : List Char → List Char
  | [] => []
  | c :: cs => if c = accent then accent :: accent :: doubled cs else c :: doubled cs

/-- A name as it is written. -/
def chars : Name → List Char
  | plain cs => cs
  | escaped content => accent :: (doubled content ++ [accent])

/-- What a name stands for. -/
def meaning : Name → List Char
  | plain cs => cs
  | escaped content => content

end Name

/-- A token of a statement. -/
inductive Token where
  /-- A name or a word of the language. -/
  | name (name : Name)
  /-- A text with its quotes. -/
  | literal (chars : List Char)
  /-- Everything between two brackets, and these. -/
  | group (chars : List Char)
  /-- A dot and the name of a property. -/
  | lookup (name : Name)
  /-- A dollar sign and the name of a parameter. -/
  | parameter (name : Name)
  /-- A dollar sign and the number of a parameter. -/
  | positional (digits : List Char)
  /-- An unsigned number. -/
  | number (chars : List Char)
  | operator (symbol : Char)
  | comma
  | semicolon
deriving DecidableEq, Repr

namespace Token

/-- A token as it is written. -/
def chars : Token → List Char
  | name n => n.chars
  | literal cs | group cs | number cs => cs
  | lookup n => '.' :: n.chars
  | parameter n => '$' :: n.chars
  | positional digits => '$' :: digits
  | operator symbol => [symbol]
  | comma => [',']
  | semicolon => [';']

/-- Whether a token is a word of the language, in any case. A name between
accents is no such word. -/
def isWord (word : String) : Token → Bool
  | name (.plain cs) => cs.map Char.toLower == word.toList
  | _ => false

end Token

/-! ### Scanning one token -/

/-- The content of a name up to the closing accent, with doubled accents
halved, and what follows it. -/
def scanEscaped : List Char → Option (List Char × List Char)
  | [] => none
  | c :: cs =>
    if c = accent then
      match cs with
      | [] => some ([], [])
      | d :: ds =>
        if d = accent then (scanEscaped ds).map fun (content, rest) => (accent :: content, rest)
        else some ([], d :: ds)
    else (scanEscaped cs).map fun (content, rest) => (c :: content, rest)

/-- A name at the front, and what follows it. -/
def scanName : List Char → Option (Name × List Char)
  | [] => none
  | c :: cs =>
    if isNameStart c then
      some (.plain (c :: cs.takeWhile isNameChar), cs.dropWhile isNameChar)
    else if c = accent then (scanEscaped cs).map fun (content, rest) => (.escaped content, rest)
    else none

/-- A text up to and with its closing quote, and what follows it. A backslash
takes the next character with it. -/
def scanLiteral (quote : Char) : List Char → Option (List Char × List Char)
  | [] => none
  | c :: cs =>
    if c = '\\' then
      match cs with
      | [] => none
      | d :: ds => (scanLiteral quote ds).map fun (text, rest) => (c :: d :: text, rest)
    else if c = quote then some ([c], cs)
    else (scanLiteral quote cs).map fun (text, rest) => (c :: text, rest)

/-- Digits at the front, and what follows them. -/
def scanDigits (cs : List Char) : List Char × List Char :=
  (cs.takeWhile Char.isDigit, cs.dropWhile Char.isDigit)

/-- A point and at least one digit, or nothing, and what follows. -/
def scanFraction : List Char → List Char × List Char
  | [] => ([], [])
  | c :: cs =>
    let (digits, rest) := scanDigits cs
    if c = '.' && !digits.isEmpty then (c :: digits, rest) else ([], c :: cs)

/-- A sign, or nothing, and what follows. -/
def scanSign : List Char → List Char × List Char
  | [] => ([], [])
  | c :: cs => if c = '+' || c = '-' then ([c], cs) else ([], c :: cs)

/-- An exponent with at least one digit, or nothing, and what follows. -/
def scanExponent : List Char → List Char × List Char
  | [] => ([], [])
  | c :: cs =>
    let (sign, afterSign) := scanSign cs
    let (digits, rest) := scanDigits afterSign
    if (c = 'e' || c = 'E') && !digits.isEmpty then (c :: (sign ++ digits), rest)
    else ([], c :: cs)

/-- Digits with a fraction and an exponent, which may be missing, and what
follows. -/
def scanNumber (cs : List Char) : List Char × List Char :=
  let (whole, afterWhole) := scanDigits cs
  let (fraction, afterFraction) := scanFraction afterWhole
  let (exponent, rest) := scanExponent afterFraction
  (whole ++ (fraction ++ exponent), rest)

/-- The bracket that closes what a bracket opens. -/
def closer? (c : Char) : Option Char :=
  if c = '(' then some ')'
  else if c = '[' then some ']'
  else if c = '\x7b' then some '\x7d'
  else none

/-- Whether a character is a closing bracket. -/
def isCloser (c : Char) : Bool :=
  c = ')' || c = ']' || c = '\x7d'

/-- Whether a character opens and closes texts. -/
def isQuote (c : Char) : Bool :=
  c = apostrophe || c = '"'

/-- What a place inside a group is in. -/
inductive Inside where
  /-- Neither in a text nor in a name between accents. -/
  | code
  /-- In a text with this quote. -/
  | text (quote : Char)
  /-- In a text, after a backslash. -/
  | afterBackslash (quote : Char)
  /-- In a name between accents. -/
  | name
  /-- After an accent that closes a name unless another one follows. -/
  | afterAccent
deriving DecidableEq, Repr

/-- A place inside a group: the brackets that are to be closed, innermost
first, and what the place is in. -/
structure Place where
  closers : List Char
  inside : Inside
deriving DecidableEq, Repr

/-- The place after one more character outside texts and names; there is none
after a bracket that closes nothing or the wrong one. -/
def Place.stepCode (closers : List Char) (c : Char) : Option Place :=
  if isQuote c then some ⟨closers, .text c⟩
  else if c = accent then some ⟨closers, .name⟩
  else if isCloser c then
    match closers with
    | [] => none
    | closer :: outer => if c = closer then some ⟨outer, .code⟩ else none
  else
    match closer? c with
    | some closer => some ⟨closer :: closers, .code⟩
    | none => some ⟨closers, .code⟩

/-- The place after one more character. -/
def Place.step (p : Place) (c : Char) : Option Place :=
  match p.inside with
  | .code => stepCode p.closers c
  | .text quote =>
    some ⟨p.closers, if c = '\\' then .afterBackslash quote
      else if c = quote then .code else .text quote⟩
  | .afterBackslash quote => some ⟨p.closers, .text quote⟩
  | .name => some ⟨p.closers, if c = accent then .afterAccent else .name⟩
  | .afterAccent => if c = accent then some ⟨p.closers, .name⟩ else stepCode p.closers c

/-- The rest of a group from a place in it to the last bracket that is to be
closed, and what follows it. -/
def scanGroup (p : Place) : List Char → Option (List Char × List Char)
  | [] => none
  | c :: cs =>
    match p.step c with
    | none => none
    | some next =>
      if next.closers.isEmpty then some ([c], cs)
      else (scanGroup next cs).map fun (inner, rest) => (c :: inner, rest)

/-- Whether a character is an operator by itself. -/
def isOperator (c : Char) : Bool :=
  ['<', '>', '=', '+', '-', '*', '/', '%', '^', ':', '|', '!', '~', '&', '.'].contains c

/-- What stands after a dollar sign: a name or digits. -/
def scanParameter (cs : List Char) : Option (Token × List Char) :=
  match scanName cs with
  | some (name, rest) => some (.parameter name, rest)
  | none =>
    let (digits, rest) := scanDigits cs
    if digits.isEmpty then none else some (.positional digits, rest)

/-- A token that its first character alone tells, and what follows it. -/
def scanSymbol (c : Char) (cs : List Char) : Option (Token × List Char) :=
  if c = ',' then some (.comma, cs)
  else if c = ';' then some (.semicolon, cs)
  else if isOperator c then some (.operator c, cs)
  else none

/-- The token at the front, and what follows it. -/
def scanToken : List Char → Option (Token × List Char)
  | [] => none
  | c :: cs =>
    if isNameStart c || c = accent then
      (scanName (c :: cs)).map fun (name, rest) => (.name name, rest)
    else if c.isDigit then
      let (number, rest) := scanNumber (c :: cs)
      some (.number number, rest)
    else if isQuote c then
      (scanLiteral c cs).map fun (text, rest) => (.literal (c :: text), rest)
    else if c = '$' then scanParameter cs
    else
      match closer? c with
      | some closer =>
        (scanGroup ⟨[closer], .code⟩ cs).map fun (inner, rest) => (.group (c :: inner), rest)
      | none =>
        match if c = '.' then scanName cs else none with
        | some (name, rest) => some (.lookup name, rest)
        | none => scanSymbol c cs

/-! ### Gaps -/

/-- Whether a character may stand between tokens. -/
def isGapChar (c : Char) : Bool :=
  c = ' ' || c = '\t' || c = '\r' || c = '\n'

/-- Whether a block comment ends. -/
def closesBlock : List Char → Bool
  | [] => false
  | c :: cs =>
    (match cs with
      | d :: _ => c = '*' && d = '/'
      | [] => false) || closesBlock cs

/-- What a place in a gap is in. -/
inductive GapPlace where
  | blank
  | line
  | block
deriving DecidableEq, Repr

/-- The rest of a gap from a place in it, and what follows it. A block comment
that never ends is no comment. -/
def scanGapFrom : GapPlace → List Char → List Char × List Char
  | _, [] => ([], [])
  | .line, c :: cs =>
    let (gap, rest) := scanGapFrom (if c = '\n' then .blank else .line) cs
    (c :: gap, rest)
  | .block, [c] => ([c], [])
  | .block, c :: d :: cs =>
    if c = '*' && d = '/' then
      let (gap, rest) := scanGapFrom .blank cs
      (c :: d :: gap, rest)
    else
      let (gap, rest) := scanGapFrom .block (d :: cs)
      (c :: gap, rest)
  | .blank, [c] => if isGapChar c then ([c], []) else ([], [c])
  | .blank, c :: d :: cs =>
    if isGapChar c then
      let (gap, rest) := scanGapFrom .blank (d :: cs)
      (c :: gap, rest)
    else if c = '/' && d = '/' then
      let (gap, rest) := scanGapFrom .line cs
      (c :: d :: gap, rest)
    else if c = '/' && d = '*' && closesBlock cs then
      let (gap, rest) := scanGapFrom .block cs
      (c :: d :: gap, rest)
    else ([], c :: d :: cs)

/-- The blanks and comments at the front, and what follows them. -/
def scanGap (cs : List Char) : List Char × List Char :=
  scanGapFrom .blank cs

/-! ### Nothing is lost -/

theorem doubled_scanEscaped {cs content rest : List Char}
    (h : scanEscaped cs = some (content, rest)) :
    cs = Name.doubled content ++ accent :: rest := by
  fun_induction scanEscaped cs generalizing content rest with
  | case1 => simp at h
  | case2 => simp_all [Name.doubled]
  | case3 ds ih =>
    obtain ⟨⟨inner, tail⟩, hi, he⟩ := Option.map_eq_some_iff.1 h
    cases he
    simpa [Name.doubled] using ih hi
  | case4 => simp_all [Name.doubled]
  | case5 c cs hc ih =>
    obtain ⟨⟨inner, tail⟩, hi, he⟩ := Option.map_eq_some_iff.1 h
    cases he
    simpa [Name.doubled, hc] using ih hi

theorem eq_of_scanName {cs rest : List Char} {name : Name}
    (h : scanName cs = some (name, rest)) : cs = name.chars ++ rest := by
  unfold scanName at h
  split at h
  · simp at h
  · split at h
    · cases h
      simp [Name.chars]
    · split at h
      · next hc =>
        obtain ⟨⟨inner, tail⟩, hi, he⟩ := Option.map_eq_some_iff.1 h
        cases he
        simp [Name.chars, hc, doubled_scanEscaped hi]
      · simp at h

theorem eq_of_scanLiteral {quote : Char} {cs text rest : List Char}
    (h : scanLiteral quote cs = some (text, rest)) : cs = text ++ rest := by
  fun_induction scanLiteral quote cs generalizing text rest with
  | case1 => simp at h
  | case2 => simp at h
  | case3 d ds ih =>
    obtain ⟨⟨inner, tail⟩, hi, he⟩ := Option.map_eq_some_iff.1 h
    cases he
    simp [← ih hi]
  | case4 =>
    cases h
    rfl
  | case5 c cs _ _ ih =>
    obtain ⟨⟨inner, tail⟩, hi, he⟩ := Option.map_eq_some_iff.1 h
    cases he
    simp [← ih hi]

theorem scanDigits_append (cs : List Char) : (scanDigits cs).1 ++ (scanDigits cs).2 = cs := by
  simp [scanDigits]

theorem scanFraction_append (cs : List Char) :
    (scanFraction cs).1 ++ (scanFraction cs).2 = cs := by
  cases cs with
  | nil => rfl
  | cons c cs =>
    simp only [scanFraction]
    split
    · simp [scanDigits_append]
    · rfl

theorem scanSign_append (cs : List Char) : (scanSign cs).1 ++ (scanSign cs).2 = cs := by
  cases cs with
  | nil => rfl
  | cons c cs =>
    simp only [scanSign]
    split <;> rfl

theorem scanExponent_append (cs : List Char) :
    (scanExponent cs).1 ++ (scanExponent cs).2 = cs := by
  cases cs with
  | nil => rfl
  | cons c cs =>
    simp only [scanExponent]
    split
    · simp [scanDigits_append, scanSign_append]
    · rfl

theorem scanNumber_append (cs : List Char) : (scanNumber cs).1 ++ (scanNumber cs).2 = cs := by
  simp [scanNumber, scanExponent_append, scanFraction_append, scanDigits_append]

theorem eq_of_scanGroup {p : Place} {cs inner rest : List Char}
    (h : scanGroup p cs = some (inner, rest)) : cs = inner ++ rest := by
  fun_induction scanGroup p cs generalizing inner rest with
  | case1 => simp at h
  | case2 => simp at h
  | case3 =>
    cases h
    rfl
  | case4 p c cs next _ _ ih =>
    obtain ⟨⟨inner, tail⟩, hi, he⟩ := Option.map_eq_some_iff.1 h
    cases he
    simp [← ih hi]

theorem eq_of_scanParameter {cs rest : List Char} {token : Token}
    (h : scanParameter cs = some (token, rest)) : '$' :: cs = token.chars ++ rest := by
  unfold scanParameter at h
  split at h
  · next hn =>
    cases h
    simp [Token.chars, ← eq_of_scanName hn]
  · simp only at h
    split at h
    · simp at h
    · cases h
      simp [Token.chars, scanDigits_append]

theorem eq_of_scanSymbol {c : Char} {cs rest : List Char} {token : Token}
    (h : scanSymbol c cs = some (token, rest)) : c :: cs = token.chars ++ rest := by
  unfold scanSymbol at h
  split at h
  · next hc =>
    cases h
    rw [hc]
    rfl
  · split at h
    · next hc =>
      cases h
      rw [hc]
      rfl
    · split at h
      · cases h
        rfl
      · simp at h

/-- A token and what follows it make up what was scanned. -/
theorem eq_of_scanToken {cs rest : List Char} {token : Token}
    (h : scanToken cs = some (token, rest)) : cs = token.chars ++ rest := by
  unfold scanToken at h
  split at h
  · simp at h
  · next c cs =>
    split at h
    · obtain ⟨⟨name, tail⟩, hi, he⟩ := Option.map_eq_some_iff.1 h
      cases he
      exact eq_of_scanName hi
    · split at h
      · cases h
        exact (scanNumber_append (c :: cs)).symm
      · split at h
        · obtain ⟨⟨text, tail⟩, hi, he⟩ := Option.map_eq_some_iff.1 h
          cases he
          simp [Token.chars, ← eq_of_scanLiteral hi]
        · split at h
          · next hc =>
            subst hc
            exact eq_of_scanParameter h
          · split at h
            · obtain ⟨⟨inner, tail⟩, hi, he⟩ := Option.map_eq_some_iff.1 h
              cases he
              simp [Token.chars, ← eq_of_scanGroup hi]
            · split at h
              · next hn =>
                cases h
                split at hn
                · next hc => simp [Token.chars, hc, ← eq_of_scanName hn]
                · simp at hn
              · exact eq_of_scanSymbol h

theorem chars_ne_nil_of_scanName {cs rest : List Char} {name : Name}
    (h : scanName cs = some (name, rest)) : name.chars ≠ [] := by
  unfold scanName at h
  split at h
  · simp at h
  · split at h
    · cases h
      simp [Name.chars]
    · split at h
      · obtain ⟨⟨inner, tail⟩, hi, he⟩ := Option.map_eq_some_iff.1 h
        cases he
        simp [Name.chars]
      · simp at h

theorem chars_ne_nil_of_scanParameter {cs rest : List Char} {token : Token}
    (h : scanParameter cs = some (token, rest)) : token.chars ≠ [] := by
  unfold scanParameter at h
  split at h
  · cases h
    simp [Token.chars]
  · simp only at h
    split at h
    · simp at h
    · cases h
      simp [Token.chars]

theorem chars_ne_nil_of_scanSymbol {c : Char} {cs rest : List Char} {token : Token}
    (h : scanSymbol c cs = some (token, rest)) : token.chars ≠ [] := by
  unfold scanSymbol at h
  split at h
  · cases h
    simp [Token.chars]
  · split at h
    · cases h
      simp [Token.chars]
    · split at h
      · cases h
        simp [Token.chars]
      · simp at h

/-- A token has at least one character. -/
theorem chars_ne_nil_of_scanToken {cs rest : List Char} {token : Token}
    (h : scanToken cs = some (token, rest)) : token.chars ≠ [] := by
  unfold scanToken at h
  split at h
  · simp at h
  · next c cs =>
    split at h
    · obtain ⟨⟨name, tail⟩, hi, he⟩ := Option.map_eq_some_iff.1 h
      cases he
      exact chars_ne_nil_of_scanName hi
    · split at h
      · next hc =>
        cases h
        simp [Token.chars, scanDigits, hc]
      · split at h
        · obtain ⟨⟨text, tail⟩, hi, he⟩ := Option.map_eq_some_iff.1 h
          cases he
          simp [Token.chars]
        · split at h
          · exact chars_ne_nil_of_scanParameter h
          · split at h
            · obtain ⟨⟨inner, tail⟩, hi, he⟩ := Option.map_eq_some_iff.1 h
              cases he
              simp [Token.chars]
            · split at h
              · cases h
                simp [Token.chars]
              · exact chars_ne_nil_of_scanSymbol h

/-- What follows a token is shorter than what was scanned. -/
theorem length_lt_of_scanToken {cs rest : List Char} {token : Token}
    (h : scanToken cs = some (token, rest)) : rest.length < cs.length := by
  have hlength := List.length_pos_iff.2 (chars_ne_nil_of_scanToken h)
  rw [eq_of_scanToken h, List.length_append]
  omega

theorem scanGapFrom_append (p : GapPlace) (cs : List Char) :
    (scanGapFrom p cs).1 ++ (scanGapFrom p cs).2 = cs := by
  fun_induction scanGapFrom p cs <;> simp_all

/-- A gap and what follows it make up what was scanned. -/
theorem scanGap_append (cs : List Char) : (scanGap cs).1 ++ (scanGap cs).2 = cs :=
  scanGapFrom_append .blank cs

theorem scanGap_length_le (cs : List Char) : (scanGap cs).2.length ≤ cs.length := by
  have := congrArg List.length (scanGap_append cs)
  simp only [List.length_append] at this
  omega

/-! ### Lexemes -/

/-- A token and the gap after it. -/
structure Lexeme where
  token : Token
  gap : List Char
deriving DecidableEq, Repr

/-- A lexeme as it is written. -/
def Lexeme.chars (x : Lexeme) : List Char :=
  x.token.chars ++ x.gap

/-- The lexemes of characters that start with no gap. -/
def lexemesFrom (cs : List Char) : Option (List Lexeme) :=
  if cs.isEmpty then some []
  else
    match _scanned : scanToken cs with
    | none => none
    | some (token, rest) =>
      (lexemesFrom (scanGap rest).2).map fun more => ⟨token, (scanGap rest).1⟩ :: more
termination_by cs.length
decreasing_by exact Nat.lt_of_le_of_lt (scanGap_length_le rest) (length_lt_of_scanToken _scanned)

/-- The lexemes of a statement, or nothing if it cannot be divided into
tokens. The gap before the first token belongs to none of them. -/
def lexemes (statement : String) : Option (List Lexeme) :=
  lexemesFrom (scanGap statement.toList).2

theorem eq_of_lexemesFrom {cs : List Char} {xs : List Lexeme} (h : lexemesFrom cs = some xs) :
    cs = xs.flatMap Lexeme.chars := by
  fun_induction lexemesFrom cs generalizing xs with
  | case1 cs hcs => simp_all
  | case2 => simp at h
  | case3 cs _ token rest hscan ih =>
    obtain ⟨more, hm, he⟩ := Option.map_eq_some_iff.1 h
    subst he
    rw [eq_of_scanToken hscan]
    simp only [List.flatMap_cons, Lexeme.chars, ← ih hm, List.append_assoc, scanGap_append]

/-- **Nothing is lost.** The lexemes, after the first gap, are the statement. -/
theorem eq_of_lexemes {statement : String} {xs : List Lexeme} (h : lexemes statement = some xs) :
    statement.toList = (scanGap statement.toList).1 ++ xs.flatMap Lexeme.chars := by
  rw [← eq_of_lexemesFrom h, scanGap_append]

end EntityGraph.Cypher
