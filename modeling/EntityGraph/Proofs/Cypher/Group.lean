import EntityGraph.Proofs.Cypher.Scanning
/-!
# Scanning groups

A group is the one token with a grammar of its own: brackets nest in it, and
texts and names between accents hide the brackets inside them. Scanning knows
no grammar. It walks from place to place with the stack of brackets that are
still to be closed, so the law is about walks: a walk over a balanced body
comes back to the stack it started from (`IsGroupBody.walk`), and a group is
therefore read up to its own closing bracket (`scanGroup_body`).
-/

namespace EntityGraph.Cypher

/-- A character that a group may hold by itself. -/
def isGroupChar (c : Char) : Bool :=
  (closer? c).isNone && !isCloser c && !isQuote c && c != accent

/-- **What may stand between two brackets:** texts, names between accents,
groups, and other characters that are no brackets, quotes or accents. -/
inductive IsGroupBody : List Char → Prop
  | nil : IsGroupBody []
  | plain {c : Char} {cs : List Char} :
      isGroupChar c = true → IsGroupBody cs → IsGroupBody (c :: cs)
  | literal {text cs : List Char} : IsLiteral text → IsGroupBody cs → IsGroupBody (text ++ cs)
  | escaped (content : List Char) {cs : List Char} :
      IsGroupBody cs → IsGroupBody ((Name.escaped content).chars ++ cs)
  | group {opener closer : Char} {inner cs : List Char} :
      closer? opener = some closer → IsGroupBody inner → IsGroupBody cs →
      IsGroupBody (opener :: (inner ++ closer :: cs))

/-- A balanced body between two brackets that belong together. -/
def IsGroup (cs : List Char) : Prop :=
  ∃ opener closer inner, closer? opener = some closer ∧ IsGroupBody inner ∧
    cs = opener :: (inner ++ [closer])

theorem IsGroupBody.append {as bs : List Char} (ha : IsGroupBody as) (hb : IsGroupBody bs) :
    IsGroupBody (as ++ bs) := by
  induction ha with
  | nil => exact hb
  | plain hc _ ih => exact .plain hc ih
  | literal htext _ ih =>
    rw [List.append_assoc]
    exact .literal htext ih
  | escaped content _ ih =>
    rw [List.append_assoc]
    exact .escaped content ih
  | group hcloser hinner _ _ ih =>
    rw [List.cons_append, List.append_assoc, List.cons_append]
    exact .group hcloser hinner ih

theorem isGroupBody_of_all {cs : List Char} (h : cs.all isGroupChar = true) : IsGroupBody cs := by
  induction cs with
  | nil => exact .nil
  | cons c cs ih =>
    rw [List.all_cons, Bool.and_eq_true] at h
    exact .plain h.1 (ih h.2)

/-! ### Brackets -/

theorem closer?_eq_some_iff {opener closer : Char} : closer? opener = some closer ↔
    (opener = '(' ∧ closer = ')') ∨ (opener = '[' ∧ closer = ']') ∨
      (opener = '\x7b' ∧ closer = '\x7d') := by
  unfold closer?
  split
  · next h => subst h; simp [eq_comm]
  · split
    · next h => subst h; simp [eq_comm]
    · split
      · next h => subst h; simp [eq_comm]
      · next h₁ h₂ h₃ => simp [h₁, h₂, h₃]

/-- A bracket that opens is one of three. -/
theorem opener_cases {opener closer : Char} (h : closer? opener = some closer) :
    opener = '(' ∨ opener = '[' ∨ opener = '\x7b' :=
  (closer?_eq_some_iff.1 h).imp And.left (Or.imp And.left And.left)

/-! ### Walks -/

/-- A walk from place to place over some characters, on which some bracket is
open all the way. -/
inductive Walk : Place → List Char → Place → Prop
  | here (p : Place) : Walk p [] p
  | step {p q r : Place} {c : Char} {cs : List Char} :
      p.step c = some q → q.closers ≠ [] → Walk q cs r → Walk p (c :: cs) r

theorem Walk.append {p q r : Place} {as bs : List Char} (h : Walk p as q) (h' : Walk q bs r) :
    Walk p (as ++ bs) r := by
  induction h with
  | here => exact h'
  | step hstep hopen _ ih => exact .step hstep hopen (ih h')

theorem Walk.single {p q : Place} {c : Char} (hstep : p.step c = some q)
    (hopen : q.closers ≠ []) : Walk p [c] q :=
  .step hstep hopen (.here q)

/-- Scanning goes along a walk. -/
theorem scanGroup_walk {p q : Place} {cs rest : List Char} (h : Walk p cs q) :
    scanGroup p (cs ++ rest) =
      (scanGroup q rest).map fun (inner, after) => (cs ++ inner, after) := by
  induction h with
  | here p => cases h : scanGroup p rest <;> simp [h]
  | @step p q r c cs hstep hopen _ ih =>
    have hne : q.closers.isEmpty = false := by simpa using hopen
    rw [List.cons_append, scanGroup]
    simp only [hstep, hne, Bool.false_eq_true, ↓reduceIte, ih, Option.map_map]
    rfl

/-! ### Walking over a body -/

/-- A place that is in no text and in no name between accents. After a closing
accent it may still become one in a name, but only by another accent. -/
def Place.IsCalm (p : Place) : Prop :=
  p.inside = .code ∨ p.inside = .afterAccent

/-- A calm place treats all characters but accents as code. -/
theorem step_of_isCalm {p : Place} {c : Char} (hcalm : p.IsCalm) (hc : c ≠ accent) :
    p.step c = Place.stepCode p.closers c := by
  rcases hcalm with h | h <;> simp [Place.step, h, hc]

theorem step_accent_of_isCalm {p : Place} (hcalm : p.IsCalm) :
    p.step accent = some ⟨p.closers, .name⟩ := by
  rcases hcalm with h | h
  · have hquote : isQuote accent = false := by decide
    simp [Place.step, h, Place.stepCode, hquote]
  · simp [Place.step, h]

/-- From a calm place a bracket opens a pair, -/
theorem step_opener {p : Place} {opener closer : Char} (hcalm : p.IsCalm)
    (hpair : closer? opener = some closer) : p.step opener = some ⟨closer :: p.closers, .code⟩ := by
  rcases closer?_eq_some_iff.1 hpair with ⟨rfl, rfl⟩ | ⟨rfl, rfl⟩ | ⟨rfl, rfl⟩ <;>
    rw [step_of_isCalm hcalm (by decide)] <;> rfl

/-- and the other one closes it. -/
theorem step_closer {p : Place} {opener closer : Char} {closers : List Char} (hcalm : p.IsCalm)
    (hpair : closer? opener = some closer) (hclosers : p.closers = closer :: closers) :
    p.step closer = some ⟨closers, .code⟩ := by
  rcases closer?_eq_some_iff.1 hpair with ⟨rfl, rfl⟩ | ⟨rfl, rfl⟩ | ⟨rfl, rfl⟩ <;>
    rw [step_of_isCalm hcalm (by decide), hclosers] <;> rfl

/-- Inside a text the walk stays there to the end of the body. -/
theorem IsLiteralBody.walk {quote : Char} {body : List Char} {closers : List Char}
    (hopen : closers ≠ []) (h : IsLiteralBody quote body) :
    Walk ⟨closers, .text quote⟩ body ⟨closers, .text quote⟩ := by
  induction h with
  | nil => exact .here _
  | escape c _ ih =>
    exact .step (q := ⟨closers, .afterBackslash quote⟩) (by simp [Place.step]) hopen
      (.step (by simp [Place.step]) hopen ih)
  | plain hslash hne _ ih => exact .step (by simp [Place.step, hslash, hne]) hopen ih

/-- So a text is walked over from a calm place to code. -/
theorem IsLiteral.walk {p : Place} {text : List Char} (hcalm : p.IsCalm)
    (hopen : p.closers ≠ []) (h : IsLiteral text) : Walk p text ⟨p.closers, .code⟩ := by
  obtain ⟨quote, body, hquote, hbody, rfl⟩ := h
  have haccent : quote ≠ accent := by
    rintro rfl
    exact absurd hquote (by decide)
  have hstart : p.step quote = some ⟨p.closers, .text quote⟩ := by
    simp [step_of_isCalm hcalm haccent, Place.stepCode, hquote]
  have hend : Place.step ⟨p.closers, .text quote⟩ quote = some ⟨p.closers, .code⟩ := by
    simp [Place.step, ne_backslash_of_isQuote hquote]
  exact .step hstart hopen ((hbody.walk hopen).append (.single hend hopen))

/-- Inside a name between accents the walk stays there to the end of its
content, since every accent of it is written twice. -/
theorem walk_doubled {closers : List Char} (hopen : closers ≠ []) (content : List Char) :
    Walk ⟨closers, .name⟩ (Name.doubled content) ⟨closers, .name⟩ := by
  induction content with
  | nil => exact .here _
  | cons c cs ih =>
    by_cases hc : c = accent
    · rw [Name.doubled, if_pos hc]
      exact .step (q := ⟨closers, .afterAccent⟩) (by simp [Place.step]) hopen
        (.step (by simp [Place.step]) hopen ih)
    · rw [Name.doubled, if_neg hc]
      exact .step (by simp [Place.step, hc]) hopen ih

theorem walk_escaped {p : Place} (hcalm : p.IsCalm) (hopen : p.closers ≠ [])
    (content : List Char) :
    Walk p (Name.escaped content).chars ⟨p.closers, .afterAccent⟩ :=
  .step (step_accent_of_isCalm hcalm) hopen
    ((walk_doubled hopen content).append (.single (by simp [Place.step]) hopen))

/-- **A balanced body is walked over back to its own brackets.** -/
theorem IsGroupBody.walk {cs : List Char} (h : IsGroupBody cs) : ∀ {p : Place}, p.IsCalm →
    p.closers ≠ [] → ∃ q : Place, q.IsCalm ∧ q.closers = p.closers ∧ Walk p cs q := by
  induction h with
  | nil => exact fun {p} hcalm _ => ⟨p, hcalm, rfl, .here p⟩
  | @plain c cs hc _ ih =>
    intro p hcalm hopen
    obtain ⟨⟨⟨hopener, hcloser⟩, hquote⟩, haccent⟩ :
        ((closer? c = none ∧ isCloser c = false) ∧ isQuote c = false) ∧ c ≠ accent := by
      simpa [isGroupChar] using hc
    have hstep : p.step c = some ⟨p.closers, .code⟩ := by
      simp [step_of_isCalm hcalm haccent, Place.stepCode, hopener, hcloser, hquote, haccent]
    obtain ⟨q, hq, hclosers, hwalk⟩ := ih (p := ⟨p.closers, .code⟩) (.inl rfl) hopen
    exact ⟨q, hq, hclosers, .step hstep hopen hwalk⟩
  | literal htext _ ih =>
    intro p hcalm hopen
    obtain ⟨q, hq, hclosers, hwalk⟩ := ih (p := ⟨p.closers, .code⟩) (.inl rfl) hopen
    exact ⟨q, hq, hclosers, (htext.walk hcalm hopen).append hwalk⟩
  | escaped content _ ih =>
    intro p hcalm hopen
    obtain ⟨q, hq, hclosers, hwalk⟩ := ih (p := ⟨p.closers, .afterAccent⟩) (.inr rfl) hopen
    exact ⟨q, hq, hclosers, (walk_escaped hcalm hopen content).append hwalk⟩
  | @group opener closer inner cs hpair _ _ ihinner ihrest =>
    intro p hcalm hopen
    -- The walk over the inner body comes back to the bracket that was opened here.
    obtain ⟨m, hm, hmclosers, hinner⟩ :=
      ihinner (p := ⟨closer :: p.closers, .code⟩) (.inl rfl) (by simp)
    obtain ⟨q, hq, hclosers, hrest⟩ := ihrest (p := ⟨p.closers, .code⟩) (.inl rfl) hopen
    have hout : m.step closer = some ⟨p.closers, .code⟩ := step_closer hm hpair hmclosers
    exact ⟨q, hq, hclosers,
      .step (step_opener hcalm hpair) (by simp) (hinner.append (.step hout hopen hrest))⟩

/-- A group is read up to the bracket that closes it. -/
theorem scanGroup_body {opener closer : Char} {inner rest : List Char}
    (hpair : closer? opener = some closer) (hinner : IsGroupBody inner) :
    scanGroup ⟨[closer], .code⟩ (inner ++ closer :: rest) = some (inner ++ [closer], rest) := by
  obtain ⟨q, hcalm, hclosers, hwalk⟩ := hinner.walk (p := ⟨[closer], .code⟩) (.inl rfl) (by simp)
  have hout : q.step closer = some ⟨[], .code⟩ := step_closer hcalm hpair hclosers
  rw [scanGroup_walk hwalk, scanGroup]
  simp [hout]

end EntityGraph.Cypher
