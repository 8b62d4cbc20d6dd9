import EntityGraph.Time.Reading
import EntityGraph.Proofs.Number.Numeral
import EntityGraph.Proofs.Text.Visible
import EntityGraph.Proofs.Time.Civil
/-!
# Written moments read back

A moment whose year has four digits is written in the strict form, and the
strict form gives it back whatever the offset written after it
(`strict?_wallChars`); with no offset that is the moment itself
(`Instant.read?_toText`).
-/

namespace EntityGraph.Time

open Number (padded ofDigits isDigit_of_mem_padded length_padded ofDigits_padded_of_lt)
open Text

/-! ### Moments that can be written -/

/-- The year of a moment in universal time. -/
def Instant.year (t : Instant) : Int :=
  (Date.ofDays (t.seconds / secondsPerDay)).year

/-- A moment has less than a second of nanoseconds, or less than two at the
end of a minute, where a leap second can be. -/
def Instant.IsProper (t : Instant) : Prop :=
  t.nanos < nanosPerSecond ∨ t.nanos < 2 * nanosPerSecond ∧ t.seconds % 60 = 59

instance (t : Instant) : Decidable t.IsProper := inferInstanceAs (Decidable (_ ∨ _))

/-! ### Numbers of fixed width -/

theorem spanDigits_append {max : Nat} {digits rest : List Char}
    (hdigits : ∀ c ∈ digits, c.isDigit = true) (hle : digits.length ≤ max)
    (hstop : digits.length = max ∨ StopsBefore Char.isDigit rest) :
    spanDigits max (digits ++ rest) = (digits, rest) := by
  induction digits generalizing max with
  | nil =>
    cases max with
    | zero => rfl
    | succ max =>
      cases rest with
      | nil => rfl
      | cons c rest =>
        have hc : c.isDigit = false := by simpa using hstop
        simp [spanDigits, hc]
  | cons d digits ih =>
    cases max with
    | zero => simp at hle
    | succ max =>
      have hd : d.isDigit = true := hdigits d List.mem_cons_self
      have hshorter : digits.length ≤ max := by simpa using hle
      have hrest := ih (fun c hc => hdigits c (List.mem_cons_of_mem d hc)) hshorter
        (by simpa using hstop)
      simp [spanDigits, hd, hrest]

theorem exactly?_padded {width n : Nat} (h : n < Nat.pow 10 width) (rest : List Char) :
    exactly? width (padded width n ++ rest) = some (n, rest) := by
  have hspan : spanDigits width (padded width n ++ rest) = (padded width n, rest) :=
    spanDigits_append (fun c => isDigit_of_mem_padded) (by simp) (.inl (by simp))
  rw [exactly?, hspan]
  simp [ofDigits_padded_of_lt h]

theorem exactly?_padded_end {width n : Nat} (h : n < Nat.pow 10 width) :
    exactly? width (padded width n) = some (n, []) := by
  have hread := exactly?_padded h []
  rwa [List.append_nil] at hread

@[simp] theorem char?_self (c : Char) (cs : List Char) : char? c (c :: cs) = some cs := by
  simp [char?]

/-! ### Fractions of a second -/

/-- What may come after a fraction: neither a digit nor a point. -/
def EndsFraction (zone : List Char) : Prop :=
  StopsBefore (fun c => c.isDigit || c == '.') zone

theorem fraction?_digits {digits zone : List Char} (hne : digits ≠ [])
    (hdigits : ∀ c ∈ digits, c.isDigit = true) (hle : digits.length ≤ 9)
    (hzone : EndsFraction zone) : fraction? ('.' :: (digits ++ zone)) =
      some (ofDigits 0 digits * Nat.pow 10 (9 - digits.length), zone) := by
  have hstop : StopsBefore Char.isDigit zone := hzone.mono fun c hc => by simp [hc]
  have hspan : spanDigits 9 (digits ++ zone) = (digits, zone) :=
    spanDigits_append hdigits hle (.inr hstop)
  have hdrop : ([] ++ zone).dropWhile Char.isDigit = zone :=
    dropWhile_append_stop (by simp) hstop
  rw [List.nil_append] at hdrop
  simp only [fraction?, hspan, List.isEmpty_eq_false_iff.2 hne, hdrop]
  rfl

theorem fraction?_padded (width : Nat) {n : Nat} {zone : List Char} (hpos : 0 < width)
    (hle : width ≤ 9) (h : n < Nat.pow 10 width) (hzone : EndsFraction zone) :
    fraction? ('.' :: (padded width n ++ zone)) = some (n * Nat.pow 10 (9 - width), zone) := by
  have hne : padded width n ≠ [] := by
    rw [← List.length_pos_iff, length_padded]
    exact hpos
  have hread := fraction?_digits hne (fun c => isDigit_of_mem_padded)
    (by rw [length_padded]; exact hle) hzone
  rwa [length_padded, ofDigits_padded_of_lt h] at hread

theorem fraction?_nil {zone : List Char} (hzone : EndsFraction zone) :
    fraction? zone = some (0, zone) := by
  cases zone with
  | nil => rfl
  | cons c cs =>
    have hc : c ≠ '.' := by
      rintro rfl
      exact absurd (stopsBefore_cons.1 hzone) (by decide)
    rw [fraction?]
    exact fun cs' h => hc (List.cons.inj h).1

/-- **A fraction of a second is read back,** however many digits it has. -/
theorem fraction?_fractionChars {nanos : Nat} {zone : List Char} (h : nanos < nanosPerSecond)
    (hzone : EndsFraction zone) : fraction? (fractionChars nanos ++ zone) = some (nanos, zone) := by
  rw [fractionChars]
  split
  · next hzero => rw [hzero, List.nil_append, fraction?_nil hzone]
  split
  · next hmillis =>
    have hshort : nanos / 1000000 < 1000 := Nat.div_lt_of_lt_mul h
    have hread := fraction?_padded 3 (by decide) (by decide) hshort hzone
    rw [List.cons_append, hread]
    exact congrArg (fun n => some (n, zone)) (Nat.div_mul_cancel (Nat.dvd_of_mod_eq_zero hmillis))
  split
  · next hmicros =>
    have hshort : nanos / 1000 < 1000000 := Nat.div_lt_of_lt_mul h
    have hread := fraction?_padded 6 (by decide) (by decide) hshort hzone
    rw [List.cons_append, hread]
    exact congrArg (fun n => some (n, zone)) (Nat.div_mul_cancel (Nat.dvd_of_mod_eq_zero hmicros))
  · have hread := fraction?_padded 9 (by decide) (by decide) h hzone
    rw [List.cons_append, hread]
    exact congrArg (fun n => some (n, zone)) (Nat.mul_one nanos)

/-! ### The strict form -/

/-- The date and the time of day of a moment in fields. -/
def Instant.fields (t : Instant) : Fields :=
  let date := Date.ofDays (t.seconds / secondsPerDay)
  let second := (t.seconds % secondsPerDay).toNat
  { year := date.year
    month := date.month
    day := date.day
    hour := second / 3600
    minute := second / 60 % 60
    second := second % 60 + t.nanos / nanosPerSecond
    nanos := t.nanos % nanosPerSecond }

theorem Instant.fields_isValid {t : Instant} (h : t.IsProper) : t.fields.isValid = true := by
  have hdate : t.fields.date.isValid = true := Date.isValid_ofDays _
  have hsecond : (t.seconds % secondsPerDay).toNat % 60 + t.nanos / nanosPerSecond ≤ 60 := by
    unfold IsProper at h
    unfold secondsPerDay nanosPerSecond at *
    omega
  have hday : (t.seconds % secondsPerDay).toNat < 86400 := by
    unfold secondsPerDay
    omega
  simp only [Fields.isValid, hdate, Bool.true_and, Bool.and_eq_true, decide_eq_true_eq]
  unfold fields
  dsimp only
  omega

/-- **The fields of a moment name the moment** that the clocks of universal
time show when those in advance of them show these fields. The second 60 that
a leap second is written with is the second before it again. -/
theorem Instant.toInstant_fields {t : Instant} (h : t.IsProper) (offset : Int) :
    t.fields.toInstant offset = ⟨t.seconds - offset, t.nanos⟩ := by
  have hdays : t.fields.date.toDays = t.seconds / secondsPerDay := Date.toDays_ofDays _
  rw [Fields.toInstant, hdays]
  unfold IsProper at h
  unfold fields secondsPerDay nanosPerSecond at *
  dsimp only
  congr 1
  · omega
  -- The nanoseconds go past a second only where the second written is 60.
  · split <;> omega

/-- What is written of a moment is its fields, each with a fixed number of
digits, and the fraction. -/
theorem wallChars_append {t : Instant} (hlow : 0 ≤ t.year) (hhigh : t.year ≤ 9999)
    (zone : List Char) : wallChars t.seconds t.nanos ++ zone =
      padded 4 t.fields.year.toNat ++ '-' :: (padded 2 t.fields.month ++ '-' ::
        (padded 2 t.fields.day ++ 'T' :: (padded 2 t.fields.hour ++ ':' ::
          (padded 2 t.fields.minute ++ ':' :: (padded 2 t.fields.second ++
            (fractionChars t.fields.nanos ++ zone)))))) := by
  unfold Instant.year at hlow hhigh
  simp [wallChars, Date.toChars, yearChars, clockChars, Instant.fields, hlow, hhigh]

theorem bind_eq_of_eq_some {β γ : Type} {x : Option β} {y : β} {next : β → Option γ}
    {z : Option γ} (hx : x = some y) (hnext : next y = z) : (x >>= next) = z := by
  rw [hx]
  exact hnext

/-- The strict form reads one field after another, and then the offset. -/
theorem strict?_of_fields {f : Fields} {year : Nat} {letter : Char}
    {cs cs₁ cs₂ cs₃ cs₄ cs₅ cs₆ zone : List Char} (hfyear : f.year = year)
    (hletter : letter = 'T' ∨ letter = ' ')
    (hyear : exactly? 4 cs = some (year, '-' :: cs₁))
    (hmonth : exactly? 2 cs₁ = some (f.month, '-' :: cs₂))
    (hday : exactly? 2 cs₂ = some (f.day, letter :: cs₃))
    (hhour : exactly? 2 cs₃ = some (f.hour, ':' :: cs₄))
    (hminute : exactly? 2 cs₄ = some (f.minute, ':' :: cs₅))
    (hsecond : exactly? 2 cs₅ = some (f.second, cs₆))
    (hnanos : fraction? cs₆ = some (f.nanos, zone)) :
    strict? cs = (offset? zone).bind fun (offset, rest) =>
      if rest.isEmpty ∧ f.isValid then some (f.toInstant offset) else none := by
  obtain ⟨_, month, day, hour, minute, second, nanos⟩ := f
  obtain rfl := hfyear
  have hbetween : (char? 'T' (letter :: cs₃) <|> char? 't' (letter :: cs₃) <|>
      char? ' ' (letter :: cs₃)) = some cs₃ := by
    rcases hletter with rfl | rfl <;> rfl
  rw [strict?]
  -- A simp would go through the whole reader at every step; each field is read
  -- by its own equation instead.
  refine bind_eq_of_eq_some hyear (bind_eq_of_eq_some (char?_self _ _) ?_)
  refine bind_eq_of_eq_some hmonth (bind_eq_of_eq_some (char?_self _ _) ?_)
  refine bind_eq_of_eq_some hday (bind_eq_of_eq_some hbetween ?_)
  refine bind_eq_of_eq_some hhour (bind_eq_of_eq_some (char?_self _ _) ?_)
  refine bind_eq_of_eq_some hminute (bind_eq_of_eq_some (char?_self _ _) ?_)
  exact bind_eq_of_eq_some hsecond (bind_eq_of_eq_some hnanos rfl)

/-- After what is written of a moment the strict form goes by the offset. -/
theorem strict?_wallChars_eq {t : Instant} (ht : t.IsProper) (hlow : 0 ≤ t.year)
    (hhigh : t.year ≤ 9999) {zone : List Char} (hzone : EndsFraction zone) :
    strict? (wallChars t.seconds t.nanos ++ zone) = (offset? zone).bind fun (offset, rest) =>
      if rest.isEmpty then some ⟨t.seconds - offset, t.nanos⟩ else none := by
  have hvalid := Instant.fields_isValid ht
  obtain ⟨⟨⟨hdate, hhour⟩, hminute⟩, hsecond⟩ : ((t.fields.date.isValid = true ∧
      t.fields.hour ≤ 23) ∧ t.fields.minute ≤ 59) ∧ t.fields.second ≤ 60 := by
    simpa only [Fields.isValid, Bool.and_eq_true, decide_eq_true_eq] using hvalid
  obtain ⟨hmonth, hday⟩ : t.fields.month < 100 ∧ t.fields.day < 100 := Date.lt_of_isValid hdate
  have hback : t.fields.year = (t.fields.year.toNat : Int) := (Int.toNat_of_nonneg hlow).symm
  have hyear : t.fields.year.toNat < 10000 := by
    have hsame : t.fields.year = t.year := rfl
    omega
  have hnanos : t.fields.nanos < nanosPerSecond := Nat.mod_lt _ (by decide)
  have hclock : t.fields.hour < 100 ∧ t.fields.minute < 100 ∧ t.fields.second < 100 := by omega
  rw [wallChars_append hlow hhigh]
  rw [strict?_of_fields hback (.inl rfl) (exactly?_padded hyear _) (exactly?_padded hmonth _)
    (exactly?_padded hday _) (exactly?_padded hclock.1 _) (exactly?_padded hclock.2.1 _)
    (exactly?_padded hclock.2.2 _) (fraction?_fractionChars hnanos hzone)]
  simp only [hvalid, and_true, Instant.toInstant_fields ht]

/-- **A moment is read back in front of any offset,** as the moment that is so
much earlier in universal time. -/
theorem strict?_wallChars {t : Instant} (ht : t.IsProper) (hlow : 0 ≤ t.year)
    (hhigh : t.year ≤ 9999) {zone : List Char} {offset : Int} (hzone : EndsFraction zone)
    (hoffset : offset? zone = some (offset, [])) :
    strict? (wallChars t.seconds t.nanos ++ zone) = some ⟨t.seconds - offset, t.nanos⟩ := by
  rw [strict?_wallChars_eq ht hlow hhigh hzone, hoffset]
  rfl

/-! ### Whole texts -/

/-- The characters that moments are written with. -/
def IsStampChar (c : Char) : Prop :=
  c.isDigit = true ∨ c ∈ ['-', 'T', ':', '.', '+']

theorem IsStampChar.isVisibleChar {c : Char} (h : IsStampChar c) : IsVisibleChar c := by
  rcases h with hdigit | hc
  · exact isVisibleChar_of_isDigit hdigit
  · have hall : ['-', 'T', ':', '.', '+'].all (fun c => decide (IsVisibleChar c)) = true := by decide
    simpa using List.all_eq_true.1 hall c hc

theorem IsStampChar.ne_bracket {c : Char} (h : IsStampChar c) : c ≠ '[' := by
  rintro rfl
  exact absurd h (by unfold IsStampChar; decide)

theorem isStampChar_of_mem_padded {width n : Nat} {c : Char} (h : c ∈ padded width n) :
    IsStampChar c :=
  .inl (isDigit_of_mem_padded h)

theorem isStampChar_of_mem_fractionChars {nanos : Nat} {c : Char} (h : c ∈ fractionChars nanos) :
    IsStampChar c := by
  have hpoint {width n : Nat} (h : c ∈ '.' :: padded width n) : IsStampChar c := by
    rcases List.mem_cons.1 h with rfl | h
    · exact .inr (by decide)
    · exact isStampChar_of_mem_padded h
  rw [fractionChars] at h
  split at h
  · simp at h
  split at h
  · exact hpoint h
  split at h
  · exact hpoint h
  · exact hpoint h

theorem isStampChar_of_mem_yearChars {year : Int} {c : Char} (h : c ∈ yearChars year) :
    IsStampChar c := by
  rw [yearChars] at h
  split at h
  · exact isStampChar_of_mem_padded h
  rcases List.mem_cons.1 h with rfl | h
  · split <;> exact .inr (by decide)
  split at h
  · exact isStampChar_of_mem_padded h
  · exact .inl (Nat.isDigit_of_mem_toDigits (by decide) (by decide) h)

theorem isStampChar_of_mem_wallChars {seconds : Int} {nanos : Nat} {c : Char}
    (h : c ∈ wallChars seconds nanos) : IsStampChar c := by
  simp only [wallChars, Date.toChars, clockChars, List.append_assoc, List.cons_append,
    List.mem_append, List.mem_cons] at h
  rcases h with h | rfl | h | rfl | h | rfl | h | rfl | h | rfl | h | h
  all_goals first
    | exact isStampChar_of_mem_yearChars h
    | exact isStampChar_of_mem_padded h
    | exact isStampChar_of_mem_fractionChars h
    | exact .inr (by decide)

/-- Of a text of such characters everything is read. -/
theorem stampChars_ofList {cs : List Char} (h : ∀ c ∈ cs, IsStampChar c) :
    stampChars (String.ofList cs) = cs := by
  have hall : (cs ++ []).takeWhile (· != '[') = cs :=
    takeWhile_append_stop (fun c hc => by simpa using (h c hc).ne_bracket) (stopsBefore_nil _)
  rw [List.append_nil] at hall
  rw [stampChars, String.toList_ofList, trimChars_visible fun c hc => (h c hc).isVisibleChar, hall]

/-- All that is written of a moment is read. -/
theorem stampChars_toText (t : Instant) :
    stampChars t.toText = wallChars t.seconds t.nanos ++ ['+', '0', '0', ':', '0', '0'] := by
  refine stampChars_ofList fun c hc => ?_
  rcases List.mem_append.1 hc with hc | hc
  · exact isStampChar_of_mem_wallChars hc
  · have hall : ['+', '0', '0', ':', '0', '0'].all
        (fun c => c.isDigit || ['-', 'T', ':', '.', '+'].contains c) = true := by decide
    simpa [IsStampChar] using List.all_eq_true.1 hall c hc

/-- **A moment is read back from its text,** when its year has four digits. -/
theorem Instant.read?_toText {t : Instant} (ht : t.IsProper) (hlow : 0 ≤ t.year)
    (hhigh : t.year ≤ 9999) : Instant.read? t.toText = some t := by
  have hzone : EndsFraction ['+', '0', '0', ':', '0', '0'] := stopsBefore_cons.2 (by decide)
  have hoffset : offset? ['+', '0', '0', ':', '0', '0'] = some (0, []) := by decide
  have hstrict := strict?_wallChars ht hlow hhigh hzone hoffset
  rw [Int.sub_zero] at hstrict
  rw [read?, stampChars_toText, hstrict]
  rfl

end EntityGraph.Time
