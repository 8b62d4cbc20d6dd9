import EntityGraph.Proofs.Cypher.Tokens
/-!
# Lexemes read back

A list of lexemes is written by putting their characters one after another.
It is separated when every token is of its kind, every gap is blank, and no
token runs on with what comes after it, be that a gap or the next token. What
is written by a separated list is divided into the same lexemes again
(`lexemesFrom_write`). Blank gaps between all tokens are one way to separate
them (`IsSpaced.separated`), but a token that needs no gap may go without.
-/

namespace EntityGraph.Cypher

open Text

/-! ### Gaps -/

/-- A gap of blanks alone. -/
def IsBlankGap (gap : List Char) : Prop :=
  ∀ c ∈ gap, isGapChar c = true

theorem isGapChar_iff {c : Char} : isGapChar c = true ↔ c = ' ' ∨ c = '\t' ∨ c = '\r' ∨ c = '\n' := by
  simp [isGapChar, or_assoc]

@[simp] theorem isBlankGap_nil : IsBlankGap [] := by
  simp [IsBlankGap]

@[simp] theorem isBlankGap_space : IsBlankGap [' '] := by
  simp [IsBlankGap]
  decide

@[simp] theorem isBlankGap_newline : IsBlankGap ['\n'] := by
  simp [IsBlankGap]
  decide

theorem isGapChar_of_isVisibleChar {c : Char} (h : IsVisibleChar c) : isGapChar c = false := by
  rw [Bool.eq_false_iff]
  intro hgap
  rcases isGapChar_iff.1 hgap with rfl | rfl | rfl | rfl <;> exact absurd h (by decide)

theorem scanGap_cons {c : Char} (hc : isGapChar c = true) (cs : List Char) :
    scanGap (c :: cs) = (c :: (scanGap cs).1, (scanGap cs).2) := by
  cases cs with
  | nil => simp [scanGap, scanGapFrom, hc]
  | cons d cs => simp [scanGap, scanGapFrom, hc]

/-- A blank gap is read up to where it ends. -/
theorem scanGap_append_gap {gap rest : List Char} (hgap : IsBlankGap gap)
    (hrest : scanGap rest = ([], rest)) : scanGap (gap ++ rest) = (gap, rest) := by
  induction gap with
  | nil => exact hrest
  | cons c gap ih =>
    have htail := ih fun d hd => hgap d (by simp [hd])
    rw [List.cons_append, scanGap_cons (hgap c (by simp)), htail]

/-- No gap starts with a token: the first character of a token is visible, and
a stroke makes a comment only with what may not follow it. -/
theorem scanGap_token {t : Token} {rest : List Char} (ht : t.IsWellFormed)
    (hrest : t.EndsBefore rest) : scanGap (t.chars ++ rest) = ([], t.chars ++ rest) := by
  obtain ⟨c, cs, hcs, hc, hstroke⟩ := t.exists_first ht
  have hgap := isGapChar_of_isVisibleChar hc
  by_cases hne : c = '/'
  · rw [hstroke hne] at hrest ⊢
    cases rest with
    | nil => simp [Token.chars, scanGap, scanGapFrom, isGapChar]
    | cons d ds =>
      obtain ⟨hline, hblock⟩ : ¬ d = '/' ∧ ¬ d = '*' := by simpa using hrest.2 rfl
      simp [Token.chars, scanGap, scanGapFrom, isGapChar, hline, hblock]
  · rw [hcs, List.cons_append]
    cases hrest' : cs ++ rest with
    | nil => simp [scanGap, scanGapFrom, hgap]
    | cons d ds => simp [scanGap, scanGapFrom, hgap, hne]

/-- A blank gap, or nothing, stops a run of any characters but blanks. -/
theorem stopsBefore_gap {p : Char → Bool} {gap rest : List Char} (hgap : IsBlankGap gap)
    (hend : gap = [] → rest = []) (hp : (p ' ' || p '\t' || p '\r' || p '\n') = false) :
    StopsBefore p (gap ++ rest) := by
  simp only [Bool.or_eq_false_iff] at hp
  obtain ⟨⟨⟨hspace, htab⟩, hreturn⟩, hline⟩ := hp
  cases gap with
  | nil => simp [hend rfl]
  | cons c gap =>
    rcases isGapChar_iff.1 (hgap c (by simp)) with rfl | rfl | rfl | rfl <;> simpa

/-- What follows a blank gap, or nothing, runs on with no token. -/
theorem Token.endsBefore_gap (t : Token) {gap rest : List Char} (hgap : IsBlankGap gap)
    (hend : gap = [] → rest = []) : t.EndsBefore (gap ++ rest) := by
  have hstop {p : Char → Bool} := stopsBefore_gap (p := p) hgap hend
  have hname (n : Name) : n.EndsBefore (gap ++ rest) := by
    cases n with
    | plain cs => exact hstop (by decide)
    | escaped content => exact hstop (by decide)
  cases t with
  | name n => exact hname n
  | lookup n => exact hname n
  | parameter n => exact hname n
  | positional digits => exact hstop (by decide)
  | number cs => exact hstop (by decide)
  | operator symbol => exact ⟨fun _ => hstop (by decide), fun _ => hstop (by decide)⟩
  | literal cs | group cs | comma | semicolon => trivial

/-! ### Writing -/

/-- Lexemes as they are written one after another. -/
def write (xs : List Lexeme) : List Char :=
  xs.flatMap Lexeme.chars

@[simp] theorem write_nil : write [] = [] := rfl

@[simp] theorem write_cons (x : Lexeme) (xs : List Lexeme) :
    write (x :: xs) = x.token.chars ++ (x.gap ++ write xs) := by
  simp [write, Lexeme.chars]

@[simp] theorem write_append (xs ys : List Lexeme) : write (xs ++ ys) = write xs ++ write ys := by
  simp [write]

/-- **Lexemes are separated** in front of some text when their tokens are of
their kinds, their gaps are blank, and no token runs on with what follows. -/
def Separated : List Lexeme → List Char → Prop
  | [], _ => True
  | x :: xs, rest => x.token.IsWellFormed ∧ IsBlankGap x.gap ∧
      x.token.EndsBefore (x.gap ++ (write xs ++ rest)) ∧ Separated xs rest

theorem separated_append {xs ys : List Lexeme} {rest : List Char} :
    Separated (xs ++ ys) rest ↔ Separated xs (write ys ++ rest) ∧ Separated ys rest := by
  induction xs with
  | nil => simp [Separated]
  | cons x xs ih => simp [Separated, ih, and_assoc]

/-- Separated lexemes have tokens of their kinds and blank gaps. -/
theorem Separated.of_mem {xs : List Lexeme} {rest : List Char} (h : Separated xs rest) {x : Lexeme}
    (hx : x ∈ xs) : x.token.IsWellFormed ∧ IsBlankGap x.gap := by
  induction xs with
  | nil => simp at hx
  | cons y xs ih =>
    obtain ⟨htoken, hgap, -, hxs⟩ := h
    rcases List.mem_cons.1 hx with rfl | hx
    · exact ⟨htoken, hgap⟩
    · exact ih hxs hx

theorem scanGap_write {xs : List Lexeme} (h : Separated xs []) :
    scanGap (write xs) = ([], write xs) := by
  cases xs with
  | nil => rfl
  | cons x xs =>
    obtain ⟨htoken, -, hends, -⟩ := h
    rw [List.append_nil] at hends
    rw [write_cons]
    exact scanGap_token htoken hends

/-- One token and the gap after it are read, and then what follows. -/
theorem lexemesFrom_append {t : Token} {gap rest : List Char}
    (hscan : scanToken (t.chars ++ (gap ++ rest)) = some (t, gap ++ rest))
    (hgap : scanGap (gap ++ rest) = (gap, rest)) :
    lexemesFrom (t.chars ++ (gap ++ rest)) = (lexemesFrom rest).map (⟨t, gap⟩ :: ·) := by
  have hne : (t.chars ++ (gap ++ rest)).isEmpty = false := by
    simp [chars_ne_nil_of_scanToken hscan]
  rw [lexemesFrom]
  simp only [hne, Bool.false_eq_true, ↓reduceIte]
  split
  · next hnone => simp [hscan] at hnone
  · next token after hsome =>
    rw [hscan] at hsome
    cases hsome
    rw [hgap]

/-- Lexemes are read back when the first token and the gap after it are, and
then the others. -/
theorem lexemesFrom_write_cons_iff {x : Lexeme} {xs : List Lexeme} :
    lexemesFrom (write (x :: xs)) = some (x :: xs) ↔
      scanToken (x.token.chars ++ (x.gap ++ write xs)) = some (x.token, x.gap ++ write xs) ∧
        scanGap (x.gap ++ write xs) = (x.gap, write xs) ∧ lexemesFrom (write xs) = some xs := by
  constructor
  · intro h
    rw [write_cons, lexemesFrom] at h
    split at h
    · simp at h
    · split at h
      · simp at h
      · next token rest hscan =>
        obtain ⟨more, hmore, he⟩ := Option.map_eq_some_iff.1 h
        cases he
        have hwrite : (scanGap rest).2 = write xs := eq_of_lexemesFrom hmore
        have hrest : (scanGap rest).1 ++ write xs = rest := by rw [← hwrite, scanGap_append]
        simp only [hrest] at hscan ⊢
        exact ⟨hscan, Prod.ext rfl hwrite, hwrite ▸ hmore⟩
  · rintro ⟨hscan, hgap, hxs⟩
    rw [write_cons, lexemesFrom_append hscan hgap, hxs]
    rfl

/-- **Separated lexemes are read back.** -/
theorem lexemesFrom_write {xs : List Lexeme} (h : Separated xs []) :
    lexemesFrom (write xs) = some xs := by
  induction xs with
  | nil => rw [write_nil, lexemesFrom]; rfl
  | cons x xs ih =>
    obtain ⟨htoken, hgap, hends, hxs⟩ := h
    rw [List.append_nil] at hends
    exact lexemesFrom_write_cons_iff.2 ⟨scanToken_chars htoken hends,
      scanGap_append_gap hgap (scanGap_write hxs), ih hxs⟩

/-- Blanks before the first token are read over. -/
theorem lexemes_write {lead : List Char} {xs : List Lexeme} (hlead : IsBlankGap lead)
    (h : Separated xs []) : lexemes (String.ofList (lead ++ write xs)) = some xs := by
  rw [lexemes, String.toList_ofList, scanGap_append_gap hlead (scanGap_write h)]
  exact lexemesFrom_write h

/-! ### White space between all tokens -/

/-- Tokens of their kinds with white space between any two of them. -/
def IsSpaced : List Lexeme → Prop
  | [] => True
  | [x] => x.token.IsWellFormed ∧ IsBlankGap x.gap
  | x :: y :: xs => x.token.IsWellFormed ∧ IsBlankGap x.gap ∧ x.gap ≠ [] ∧ IsSpaced (y :: xs)

/-- White space separates all tokens. -/
theorem IsSpaced.separated {xs : List Lexeme} (h : IsSpaced xs) : Separated xs [] := by
  induction xs with
  | nil => trivial
  | cons x xs ih =>
    cases xs with
    | nil =>
      obtain ⟨htoken, hgap⟩ := h
      exact ⟨htoken, hgap, x.token.endsBefore_gap hgap fun _ => rfl, trivial⟩
    | cons y ys =>
      obtain ⟨htoken, hgap, hne, hys⟩ := h
      exact ⟨htoken, hgap, x.token.endsBefore_gap hgap fun heq => absurd heq hne, ih hys⟩

/-- A plain name and a space. -/
def spacedWord (word : String) : Lexeme :=
  ⟨.name (.plain word.toList), [' ']⟩

/-- It may stand before anything that is spaced. -/
theorem isSpaced_spacedWord {word : String} {x : Lexeme} {xs : List Lexeme}
    (hword : isName word = true) (h : IsSpaced (x :: xs)) :
    IsSpaced (spacedWord word :: x :: xs) :=
  ⟨hword, isBlankGap_space, by simp [spacedWord], h⟩

theorem separated_spacedWord {word : String} {xs : List Lexeme} {rest : List Char}
    (hword : isName word = true) (h : Separated xs rest) : Separated (spacedWord word :: xs) rest :=
  ⟨hword, isBlankGap_space, Token.endsBefore_gap _ isBlankGap_space (by simp [spacedWord]), h⟩

end EntityGraph.Cypher
