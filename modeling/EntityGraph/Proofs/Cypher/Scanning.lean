import EntityGraph.Cypher.Token
import EntityGraph.Proofs.Text.Visible
/-!
# Scanning what is written

Which characters make up a name, a text and a number, and when what follows
does not run on with one. Each of them is then read back from the front of any
such text: `scanName_chars`, `scanLiteral_body`, `scanNumber_numeral`.
-/

namespace EntityGraph.Cypher

open Text

/-! ### Names -/

/-- A name is written with the characters of one, or between accents with any
at all. -/
def Name.IsWellFormed : Name → Prop
  | .plain cs => isNameChars cs = true
  | .escaped _ => True

/-- What follows a name does not run on with it. -/
def Name.EndsBefore : Name → List Char → Prop
  | .plain _ => StopsBefore isNameChar
  | .escaped _ => StopsBefore (· == accent)

theorem isNameStart_iff_toNat {c : Char} : isNameStart c = true ↔
    ((65 ≤ c.toNat ∧ c.toNat ≤ 90) ∨ (97 ≤ c.toNat ∧ c.toNat ≤ 122)) ∨ c = '_' := by
  show ((decide (c.val ≥ 'A'.val ∧ c.val ≤ 'Z'.val) ||
    (decide (c.val ≥ 'a'.val) && decide (c.val ≤ 'z'.val))) || c == '_') = true ↔ _
  simp only [Bool.or_eq_true, Bool.and_eq_true, decide_eq_true_eq, ge_iff_le,
    UInt32.le_iff_toNat_le, beq_iff_eq]
  rfl

theorem isNameChar_eq (c : Char) : isNameChar c = (isNameStart c || c.isDigit) := by
  simp only [isNameChar, isNameStart, Char.isAlphanum]
  cases c.isAlpha <;> cases c.isDigit <;> simp

theorem isNameChar_of_isNameStart {c : Char} (h : isNameStart c = true) : isNameChar c = true := by
  rw [isNameChar_eq, h, Bool.true_or]

theorem isNameChar_of_isDigit {c : Char} (h : c.isDigit = true) : isNameChar c = true := by
  rw [isNameChar_eq, h, Bool.or_true]

/-- No name starts with a digit. -/
theorem isNameStart_of_isDigit {c : Char} (h : c.isDigit = true) : isNameStart c = false := by
  rw [Bool.eq_false_iff]
  intro hstart
  have hdigit := isDigit_iff_toNat.1 h
  rcases isNameStart_iff_toNat.1 hstart with hletter | rfl
  · omega
  · exact absurd h (by decide)

theorem scanEscaped_doubled {content rest : List Char} (h : StopsBefore (· == accent) rest) :
    scanEscaped (Name.doubled content ++ accent :: rest) = some (content, rest) := by
  induction content with
  | nil =>
    cases rest with
    | nil => simp [Name.doubled, scanEscaped]
    | cons c cs =>
      have hc : ¬ c = accent := by simpa using h
      simp [Name.doubled, scanEscaped, hc]
  | cons c cs ih =>
    by_cases hc : c = accent
    · simp [Name.doubled, hc, scanEscaped, ih]
    · rw [Name.doubled, if_neg hc, List.cons_append, scanEscaped.eq_def]
      simp [hc, ih]

/-- A name is read back. -/
theorem scanName_chars {name : Name} {rest : List Char} (hname : name.IsWellFormed)
    (hrest : name.EndsBefore rest) : scanName (name.chars ++ rest) = some (name, rest) := by
  cases name with
  | plain cs =>
    cases cs with
    | nil => simp [Name.IsWellFormed, isNameChars] at hname
    | cons c cs =>
      obtain ⟨hc, hcs⟩ : isNameStart c = true ∧ ∀ d ∈ cs, isNameChar d = true := by
        simpa [Name.IsWellFormed, isNameChars] using hname
      simp [Name.chars, scanName, hc, takeWhile_append_stop hcs hrest,
        dropWhile_append_stop hcs hrest]
  | escaped content =>
    have haccent : isNameStart accent = false := by decide
    simp [Name.chars, scanName, haccent, scanEscaped_doubled hrest]

/-- Where no name starts none is read. -/
theorem scanName_eq_none {cs : List Char}
    (h : StopsBefore (fun c => isNameStart c || c == accent) cs) : scanName cs = none := by
  cases cs with
  | nil => rfl
  | cons c cs =>
    obtain ⟨hstart, haccent⟩ : isNameStart c = false ∧ ¬ c = accent := by simpa using h
    simp [scanName, hstart, haccent]

/-! ### Texts -/

/-- What may stand between two quotes: no quote of that sort and no backslash,
but for a backslash with the character after it. -/
inductive IsLiteralBody (quote : Char) : List Char → Prop
  | nil : IsLiteralBody quote []
  | escape (c : Char) {cs : List Char} :
      IsLiteralBody quote cs → IsLiteralBody quote ('\\' :: c :: cs)
  | plain {c : Char} {cs : List Char} :
      c ≠ '\\' → c ≠ quote → IsLiteralBody quote cs → IsLiteralBody quote (c :: cs)

/-- A text with its quotes. -/
def IsLiteral (cs : List Char) : Prop :=
  ∃ quote body, isQuote quote = true ∧ IsLiteralBody quote body ∧ cs = quote :: (body ++ [quote])

theorem ne_backslash_of_isQuote {c : Char} (h : isQuote c = true) : c ≠ '\\' := by
  rintro rfl
  exact absurd h (by decide)

theorem scanLiteral_body {quote : Char} {body rest : List Char} (hquote : isQuote quote = true)
    (hbody : IsLiteralBody quote body) :
    scanLiteral quote (body ++ quote :: rest) = some (body ++ [quote], rest) := by
  induction hbody with
  | nil =>
    rw [List.nil_append, scanLiteral.eq_def]
    simp [ne_backslash_of_isQuote hquote]
  | escape c _ ih => simp [scanLiteral, ih]
  | plain hslash hne _ ih =>
    rw [List.cons_append, scanLiteral.eq_def]
    simp [hslash, hne, ih]

/-! ### Numbers -/

/-- At least one digit and nothing else. -/
def IsDigits (cs : List Char) : Prop :=
  cs ≠ [] ∧ ∀ c ∈ cs, c.isDigit = true

/-- Nothing, or a point and digits. -/
def IsFraction (cs : List Char) : Prop :=
  cs = [] ∨ ∃ digits, IsDigits digits ∧ cs = '.' :: digits

/-- Nothing, or the letter of an exponent, perhaps a sign, and digits. -/
def IsExponent (cs : List Char) : Prop :=
  cs = [] ∨ ∃ letter sign digits, (letter = 'e' ∨ letter = 'E') ∧
    (sign = [] ∨ sign = ['+'] ∨ sign = ['-']) ∧ IsDigits digits ∧ cs = letter :: (sign ++ digits)

/-- Digits, with a fraction and an exponent or without. -/
def IsNumeral (cs : List Char) : Prop :=
  ∃ whole fraction exponent, IsDigits whole ∧ IsFraction fraction ∧ IsExponent exponent ∧
    cs = whole ++ (fraction ++ exponent)

/-- What could make a number longer, or a shorter number of it. -/
def runsOnNumber (c : Char) : Bool :=
  isNameChar c || c == '.'

theorem scanDigits_append_stop {digits rest : List Char} (hdigits : ∀ c ∈ digits, c.isDigit = true)
    (hrest : StopsBefore Char.isDigit rest) : scanDigits (digits ++ rest) = (digits, rest) := by
  simp [scanDigits, takeWhile_append_stop hdigits hrest, dropWhile_append_stop hdigits hrest]

theorem stopsBefore_isDigit_of_runsOnNumber {rest : List Char}
    (h : StopsBefore runsOnNumber rest) : StopsBefore Char.isDigit rest :=
  h.mono fun c hc => by simp [runsOnNumber, isNameChar_of_isDigit hc]

theorem scanSign_sign {sign digits rest : List Char}
    (hsign : sign = [] ∨ sign = ['+'] ∨ sign = ['-']) (hdigits : IsDigits digits) :
    scanSign (sign ++ (digits ++ rest)) = (sign, digits ++ rest) := by
  rcases hsign with rfl | rfl | rfl
  · obtain ⟨hne, hall⟩ := hdigits
    cases digits with
    | nil => exact absurd rfl hne
    | cons c cs =>
      have hc : c.isDigit = true := hall c (by simp)
      have hplus : c ≠ '+' := by rintro rfl; exact absurd hc (by decide)
      have hminus : c ≠ '-' := by rintro rfl; exact absurd hc (by decide)
      simp [scanSign, hplus, hminus]
  · simp [scanSign]
  · simp [scanSign]

theorem scanExponent_exponent {exponent rest : List Char} (h : IsExponent exponent)
    (hrest : StopsBefore runsOnNumber rest) :
    scanExponent (exponent ++ rest) = (exponent, rest) := by
  have hstop := stopsBefore_isDigit_of_runsOnNumber hrest
  rcases h with rfl | ⟨letter, sign, digits, hletter, hsign, hdigits, rfl⟩
  · cases rest with
    | nil => rfl
    | cons c cs =>
      have hc : runsOnNumber c = false := stopsBefore_cons.1 hrest
      have hsmall : c ≠ 'e' := by rintro rfl; exact absurd hc (by decide)
      have hcapital : c ≠ 'E' := by rintro rfl; exact absurd hc (by decide)
      simp [scanExponent, hsmall, hcapital]
  · simp [scanExponent, scanSign_sign hsign hdigits, scanDigits_append_stop hdigits.2 hstop,
      hletter, hdigits.1]

/-- An exponent starts with no digit and no point. -/
theorem stopsBefore_exponent {exponent rest : List Char} (h : IsExponent exponent)
    (hrest : StopsBefore runsOnNumber rest) :
    StopsBefore (fun c => c.isDigit || c == '.') (exponent ++ rest) := by
  rcases h with rfl | ⟨letter, sign, digits, hletter, -, -, rfl⟩
  · refine hrest.mono fun c hc => ?_
    rcases Bool.or_eq_true _ _ ▸ hc with hd | hp
    · simp [runsOnNumber, isNameChar_of_isDigit hd]
    · simp [runsOnNumber, hp]
  · rcases hletter with rfl | rfl
    · exact stopsBefore_cons.2 (by decide)
    · exact stopsBefore_cons.2 (by decide)

theorem scanFraction_fraction {fraction exponent rest : List Char} (h : IsFraction fraction)
    (hexponent : IsExponent exponent) (hrest : StopsBefore runsOnNumber rest) :
    scanFraction (fraction ++ (exponent ++ rest)) = (fraction, exponent ++ rest) := by
  have hstop := stopsBefore_exponent hexponent hrest
  rcases h with rfl | ⟨digits, hdigits, rfl⟩
  · cases hcs : exponent ++ rest with
    | nil => simp [scanFraction]
    | cons c cs =>
      rw [hcs] at hstop
      have hc : ¬ c = '.' := by simp at hstop; exact hstop.2
      simp [scanFraction, hc]
  · have hdigit : StopsBefore Char.isDigit (exponent ++ rest) :=
      hstop.mono fun c hc => by simp [hc]
    simp [scanFraction, scanDigits_append_stop hdigits.2 hdigit, hdigits.1]

/-- A number is read back. -/
theorem scanNumber_numeral {cs rest : List Char} (h : IsNumeral cs)
    (hrest : StopsBefore runsOnNumber rest) : scanNumber (cs ++ rest) = (cs, rest) := by
  obtain ⟨whole, fraction, exponent, hwhole, hfraction, hexponent, rfl⟩ := h
  have hstop : StopsBefore Char.isDigit (fraction ++ (exponent ++ rest)) := by
    rcases hfraction with rfl | ⟨digits, -, rfl⟩
    · exact (stopsBefore_exponent hexponent hrest).mono fun c hc => by simp [hc]
    · simp
  simp [scanNumber, scanDigits_append_stop hwhole.2 hstop,
    scanFraction_fraction hfraction hexponent hrest, scanExponent_exponent hexponent hrest]

end EntityGraph.Cypher
