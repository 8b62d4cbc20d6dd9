import EntityGraph.Proofs.Time.WallTime
/-!
# The forms of a timestamp

One date and time of day may be written in many forms, and all of them are read
as one moment (`forms_agree`): with the letter for universal time behind it or
with nothing, with a letter or a space in the middle, and with an offset as the
moment that is so much earlier. A form without seconds, or without a time of day,
is read with these zero. White space around the text and the name of a zone
behind it make no difference.

Each form is read by the first reader that takes it, so for the lenient ones it
is shown that those tried before give nothing: the strict one stops for want of
an offset, and a lenient one at the first piece that is not there.
-/

namespace EntityGraph.Time

open Number (padded isDigit_of_mem_padded ofDigits_padded_of_lt)
open Text

/-! ### Pieces of fixed width -/

section Pieces

variable {pieces : List Piece} {f : Fields}

theorem number?_padded {width n : Nat} (hpos : 0 < width) (h : n < Nat.pow 10 width)
    (rest : List Char) : number? width (padded width n ++ rest) = some (n, rest) := by
  have hspan : spanDigits width (padded width n ++ rest) = (padded width n, rest) :=
    spanDigits_append (fun c => isDigit_of_mem_padded) (by simp) (.inl (by simp))
  obtain ⟨c, cs, hcs, -⟩ := exists_padded hpos n
  have hne : (padded width n).isEmpty = false := by rw [hcs]; rfl
  simp only [number?, hspan, hne, ofDigits_padded_of_lt h]
  rfl

/-- A piece of two digits is read, whichever field it is put into. -/
theorem readPieces?_two {piece : Piece} (put : Fields → Nat → Fields)
    (hpiece : ∀ f cs, piece.read? f cs =
      (number? 2 (dropBlanks cs)).map fun (n, rest) => (put f n, rest))
    {n : Nat} (h : n < 100) (rest : List Char) :
    readPieces? (piece :: pieces) f (padded 2 n ++ rest) = readPieces? pieces (put f n) rest := by
  rw [readPieces?, hpiece, dropBlanks_eq_self (stopsBefore_padded (by decide) n rest),
    number?_padded (by decide) h]
  rfl

theorem readPieces?_letter (c : Char) (rest : List Char) :
    readPieces? (.letter c :: pieces) f (c :: rest) = readPieces? pieces f rest := by
  rw [readPieces?, Piece.read?, char?_self]
  rfl

theorem readPieces?_gap (rest : List Char) :
    readPieces? (.gap :: pieces) f rest = readPieces? pieces f (dropBlanks rest) :=
  rfl

theorem readPieces?_year {year : Nat} (h : year < 10000) (rest : List Char) :
    readPieces? (.year :: pieces) f (padded 4 year ++ rest) =
      readPieces? pieces { f with year } rest := by
  have hread : number? 4 (padded 4 year ++ rest) = some (year, rest) :=
    number?_padded (by decide) h rest
  have hyear : year? (padded 4 year ++ rest) = some ((year : Int), rest) := by
    have hpos : 0 < 4 := by decide
    obtain ⟨c, cs, hcs, hdigit⟩ := exists_padded hpos year
    rw [year?, dropBlanks_eq_self (stopsBefore_padded hpos year rest)]
    rw [hcs] at hread ⊢
    -- A digit is none of the two signs.
    split
    · next hminus => simp [(List.cons.inj hminus).1] at hdigit
    · next hplus => simp [(List.cons.inj hplus).1] at hdigit
    · rw [hread]
      rfl
  rw [readPieces?, Piece.read?, hyear]
  rfl

/-- A time of day is read into the fields of a clock, whatever else they hold. -/
theorem readPieces?_clockPieces {hour minute second nanos : Nat} (hhour : hour < 100)
    (hminute : minute < 100) (hsecond : second < 100) {point : List Char}
    (hpoint : fraction? point = some (nanos, [])) :
    readPieces? clockPieces f
      (padded 2 hour ++ ':' :: (padded 2 minute ++ ':' :: (padded 2 second ++ point))) =
        some { f with hour, minute, second, nanos } := by
  rw [clockPieces, minutePieces, List.cons_append, List.cons_append, List.cons_append,
    readPieces?_two (fun f n => { f with hour := n }) (fun _ _ => rfl) hhour, readPieces?_letter,
    readPieces?_two (fun f n => { f with minute := n }) (fun _ _ => rfl) hminute,
    List.nil_append, readPieces?_letter,
    readPieces?_two (fun f n => { f with second := n }) (fun _ _ => rfl) hsecond, readPieces?,
    Piece.read?, hpoint]
  rfl

end Pieces

namespace WallTime

variable (w : WallTime)

/-! ### What the forms are read as -/

/-- The fields of a date and a time of day. -/
def fields : Fields where
  year := w.date.year
  month := w.date.month
  day := w.date.day
  hour := w.hour
  minute := w.minute
  second := w.second
  nanos := w.nanos

/-- The year has four digits, -/
theorem year_lt : w.date.year.toNat < 10000 := by
  have := w.year_le
  omega

/-- and the fields of the clock have two. -/
theorem clock_lt : w.hour < 100 ∧ w.minute < 100 ∧ w.second < 100 := by
  have := w.hour_lt
  have := w.minute_lt
  have := w.second_lt
  omega

theorem nanos_onMinute : w.onMinute.nanos = 0 :=
  Nat.zero_mul _

theorem nanos_onDay : w.onDay.nanos = 0 :=
  Nat.zero_mul _

theorem fields_isValid : w.fields.isValid = true := by
  have hhour := w.hour_lt
  have hminute := w.minute_lt
  have hsecond := w.second_lt
  have hdate : w.fields.date.isValid = true := w.isValid_date
  simp only [Fields.isValid, hdate, Bool.true_and, Bool.and_eq_true, decide_eq_true_eq]
  unfold fields
  dsimp only
  omega

/-- **The fields name the moment,** earlier by the offset. -/
theorem toInstant_fields (offset : Int) :
    w.fields.toInstant offset = ⟨w.instant.seconds - offset, w.instant.nanos⟩ := by
  have hsecond := w.second_lt
  have hdays : w.fields.date.toDays = w.date.count :=
    Date.toDays_eq_count w.isValid_date w.year_nonneg
  have hordinary : min w.second 59 = w.second := by omega
  have hleap : ¬ w.second = 60 := by omega
  rw [Fields.toInstant, hdays]
  simp [fields, instant, hordinary, hleap]

/-- The date is read first in every lenient form. -/
theorem readPieces?_date (pieces : List Piece) (rest : List Char) :
    readPieces? (datePieces ++ pieces) {} (w.dateChars ++ rest) =
      readPieces? pieces w.onDay.fields rest := by
  obtain ⟨hmonth, hday⟩ := Date.lt_of_isValid w.isValid_date
  have hback : (w.date.year.toNat : Int) = w.date.year := Int.toNat_of_nonneg w.year_nonneg
  simp only [datePieces, dateChars, List.cons_append, List.nil_append, List.append_assoc]
  rw [readPieces?_year w.year_lt, readPieces?_letter,
    readPieces?_two (fun f n => { f with month := n }) (fun _ _ => rfl) hmonth,
    readPieces?_letter, readPieces?_two (fun f n => { f with day := n }) (fun _ _ => rfl) hday,
    hback, fields, nanos_onDay]
  rfl

theorem readPieces?_minutes (pieces : List Piece) (rest : List Char) :
    readPieces? (minutePieces ++ pieces) w.onDay.fields (w.minuteChars ++ rest) =
      readPieces? pieces w.onMinute.fields rest := by
  obtain ⟨hhour, hminute, -⟩ := w.clock_lt
  simp only [minutePieces, minuteChars, List.cons_append, List.nil_append, List.append_assoc]
  rw [readPieces?_two (fun f n => { f with hour := n }) (fun _ _ => rfl) hhour, readPieces?_letter,
    readPieces?_two (fun f n => { f with minute := n }) (fun _ _ => rfl) hminute, fields, fields,
    nanos_onDay, nanos_onMinute]
  rfl

theorem fraction?_pointChars {zone : List Char} (hzone : EndsFraction zone) :
    fraction? (w.pointChars ++ zone) = some (w.nanos, zone) := by
  rw [pointChars]
  split
  · next hempty =>
    have hnanos : w.nanos = 0 := by
      rw [nanos, List.isEmpty_iff.1 hempty]
      exact Nat.zero_mul _
    rw [List.nil_append, fraction?_nil hzone, hnanos]
  · next hdigits =>
    exact fraction?_digits (fun hnil => hdigits (List.isEmpty_iff.2 hnil))
      (List.all_eq_true.1 w.isDigit_fraction) w.length_fraction_le hzone

theorem readPieces?_clock : readPieces? clockPieces w.onDay.fields w.clockChars =
    some w.fields := by
  obtain ⟨hhour, hminute, hsecond⟩ := w.clock_lt
  have hfraction := w.fraction?_pointChars (stopsBefore_nil _)
  rw [List.append_nil] at hfraction
  rw [clockChars, minuteChars, List.append_assoc, List.cons_append,
    readPieces?_clockPieces hhour hminute hsecond hfraction]
  rfl

/-! ### The strict form -/

/-- After the fraction the strict form goes by the offset. -/
theorem strict?_clock {letter : Char} (hletter : letter = 'T' ∨ letter = ' ') {zone : List Char}
    (hzone : EndsFraction zone) :
    strict? (w.dateChars ++ letter :: (w.clockChars ++ zone)) =
      (offset? zone).bind fun (offset, rest) =>
        if rest.isEmpty ∧ w.fields.isValid then some (w.fields.toInstant offset) else none := by
  obtain ⟨hmonth, hday⟩ := Date.lt_of_isValid w.isValid_date
  have hback : w.fields.year = (w.date.year.toNat : Int) :=
    (Int.toNat_of_nonneg w.year_nonneg).symm
  obtain ⟨hhour, hminute, hsecond⟩ := w.clock_lt
  simp only [dateChars, clockChars, minuteChars, List.append_assoc, List.cons_append]
  exact strict?_of_fields hback hletter (exactly?_padded w.year_lt _) (exactly?_padded hmonth _)
    (exactly?_padded hday _) (exactly?_padded hhour _) (exactly?_padded hminute _)
    (exactly?_padded hsecond _) (w.fraction?_pointChars hzone)

theorem strict?_offset {zone : List Char} {offset : Int} (hzone : EndsFraction zone)
    (hoffset : offset? zone = some (offset, [])) :
    strict? (w.dateChars ++ 'T' :: (w.clockChars ++ zone)) =
      some ⟨w.instant.seconds - offset, w.instant.nanos⟩ := by
  rw [w.strict?_clock (.inl rfl) hzone, hoffset, ← w.toInstant_fields]
  exact if_pos ⟨rfl, w.fields_isValid⟩

/-- A time of day without an offset is not in the strict form. -/
theorem strict?_clock_end {letter : Char} (hletter : letter = 'T' ∨ letter = ' ') :
    strict? (w.dateChars ++ letter :: w.clockChars) = none := by
  have hread := w.strict?_clock hletter (stopsBefore_nil _)
  rw [List.append_nil] at hread
  rw [hread]
  rfl

/-- Nor is one without seconds. -/
theorem strict?_minute_end : strict? (w.dateChars ++ 'T' :: w.minuteChars) = none := by
  obtain ⟨hmonth, hday⟩ := Date.lt_of_isValid w.isValid_date
  obtain ⟨hhour, hminute, -⟩ := w.clock_lt
  simp only [dateChars, minuteChars, List.append_assoc, List.cons_append]
  rw [strict?]
  refine bind_eq_of_eq_some (exactly?_padded w.year_lt _) (bind_eq_of_eq_some (char?_self _ _) ?_)
  refine bind_eq_of_eq_some (exactly?_padded hmonth _) (bind_eq_of_eq_some (char?_self _ _) ?_)
  refine bind_eq_of_eq_some (exactly?_padded hday _) (bind_eq_of_eq_some rfl ?_)
  refine bind_eq_of_eq_some (exactly?_padded hhour _) (bind_eq_of_eq_some (char?_self _ _) ?_)
  exact bind_eq_of_eq_some (exactly?_padded_end hminute) rfl

/-- Nor is a date alone. -/
theorem strict?_date_end : strict? w.dateChars = none := by
  obtain ⟨hmonth, hday⟩ := Date.lt_of_isValid w.isValid_date
  rw [dateChars, strict?]
  refine bind_eq_of_eq_some (exactly?_padded w.year_lt _) (bind_eq_of_eq_some (char?_self _ _) ?_)
  refine bind_eq_of_eq_some (exactly?_padded hmonth _) (bind_eq_of_eq_some (char?_self _ _) ?_)
  exact bind_eq_of_eq_some (exactly?_padded_end hday) rfl

/-! ### The lenient forms -/

theorem lenient?_of_fields {cs : List Char} {form : List Piece}
    (h : readPieces? form {} cs = some w.fields) : lenient? cs form = some w.instant := by
  have hyear : isLenientYear w.fields.year = true := by
    have hlow : 0 ≤ w.fields.year := w.year_nonneg
    have hhigh : w.fields.year ≤ 9999 := w.year_le
    simp only [isLenientYear, Bool.and_eq_true, decide_eq_true_eq]
    omega
  have hinstant : w.fields.toInstant 0 = w.instant := by
    rw [w.toInstant_fields, Int.sub_zero]
  rw [lenient?, h, ← hinstant]
  exact if_pos ⟨hyear, w.fields_isValid⟩

theorem lenient?_of_none {cs : List Char} {form : List Piece}
    (h : readPieces? form {} cs = none) : lenient? cs form = none := by
  rw [lenient?, h]
  rfl

/-- With a letter in the middle the first form is read. -/
theorem lenient_letter :
    lenientForms.findSome? (lenient? (w.dateChars ++ 'T' :: w.clockChars)) = some w.instant := by
  have hfirst : readPieces? (datePieces ++ .letter 'T' :: clockPieces) {}
      (w.dateChars ++ 'T' :: w.clockChars) = some w.fields := by
    rw [readPieces?_date, readPieces?_letter, readPieces?_clock]
  rw [lenientForms, List.findSome?_cons, w.lenient?_of_fields hfirst]

/-- With a space the second, as the first wants the letter. -/
theorem lenient_space :
    lenientForms.findSome? (lenient? (w.dateChars ++ ' ' :: w.clockChars)) = some w.instant := by
  have hblanks : dropBlanks ([' '] ++ w.clockChars) = w.clockChars := by
    refine dropBlanks_append (List.forall_mem_singleton.2 (by decide)) ?_
    rw [clockChars, minuteChars, List.append_assoc]
    exact stopsBefore_padded (by decide) _ _
  have hfirst : readPieces? (datePieces ++ .letter 'T' :: clockPieces) {}
      (w.dateChars ++ ' ' :: w.clockChars) = none := by
    rw [readPieces?_date]
    rfl
  have hsecond : readPieces? (datePieces ++ .gap :: clockPieces) {}
      (w.dateChars ++ ' ' :: w.clockChars) = some w.fields := by
    rw [readPieces?_date, readPieces?_gap, ← List.singleton_append, hblanks, readPieces?_clock]
  rw [lenientForms, List.findSome?_cons, lenient?_of_none hfirst, List.findSome?_cons,
    w.lenient?_of_fields hsecond]

/-- Without seconds the third: the first two want them. -/
theorem lenient_minute :
    lenientForms.findSome? (lenient? (w.dateChars ++ 'T' :: w.minuteChars)) =
      some w.onMinute.instant := by
  have hminutes (pieces : List Piece) :
      readPieces? (minutePieces ++ pieces) w.onDay.fields w.minuteChars =
        readPieces? pieces w.onMinute.fields [] := by
    rw [← w.readPieces?_minutes, List.append_nil]
  have hfirst : readPieces? (datePieces ++ .letter 'T' :: clockPieces) {}
      (w.dateChars ++ 'T' :: w.minuteChars) = none := by
    rw [readPieces?_date, readPieces?_letter, clockPieces, hminutes]
    rfl
  have hsecond : readPieces? (datePieces ++ .gap :: clockPieces) {}
      (w.dateChars ++ 'T' :: w.minuteChars) = none := by
    rw [readPieces?_date, readPieces?_gap]
    rfl
  have hthird : readPieces? (datePieces ++ .letter 'T' :: minutePieces) {}
      (w.dateChars ++ 'T' :: w.minuteChars) = some w.onMinute.fields := by
    rw [readPieces?_date, readPieces?_letter, ← List.append_nil minutePieces, hminutes]
    rfl
  rw [lenientForms, List.findSome?_cons, lenient?_of_none hfirst, List.findSome?_cons,
    lenient?_of_none hsecond, List.findSome?_cons, w.onMinute.lenient?_of_fields hthird]

/-- And without a time of day the last. -/
theorem lenient_date :
    lenientForms.findSome? (lenient? w.dateChars) = some w.onDay.instant := by
  have hdate (pieces : List Piece) : readPieces? (datePieces ++ pieces) {} w.dateChars =
      readPieces? pieces w.onDay.fields [] := by
    rw [← w.readPieces?_date, List.append_nil]
  have hlast : readPieces? datePieces {} w.dateChars = some w.onDay.fields := by
    rw [← List.append_nil datePieces, hdate]
    rfl
  rw [lenientForms, List.findSome?_cons, lenient?_of_none (by rw [hdate]; rfl),
    List.findSome?_cons, lenient?_of_none (by rw [hdate]; rfl), List.findSome?_cons,
    lenient?_of_none (by rw [hdate]; rfl), List.findSome?_cons, w.onDay.lenient?_of_fields hlast]

end WallTime

/-! ### Offsets -/

section Signs

variable {sign : Char} (hsign : sign = '+' ∨ sign = '-') {hours minutes : Nat}
include hsign

/-- A fraction ends at a sign. -/
theorem endsFraction_sign (cs : List Char) : EndsFraction (sign :: cs) := by
  refine stopsBefore_cons.2 ?_
  rcases hsign with rfl | rfl <;> decide

theorem isStampChar_of_mem_sign {c : Char}
    (h : c ∈ sign :: (padded 2 hours ++ ':' :: padded 2 minutes)) : IsStampChar c := by
  simp only [List.mem_append, List.mem_cons] at h
  rcases h with rfl | h | rfl | h
  · rcases hsign with rfl | rfl <;> exact .inr (by decide)
  all_goals first
    | exact isStampChar_of_mem_padded h
    | exact .inr (by decide)

/-- A sign, hours and minutes are read as so many seconds, if there are no more of
them than a day and an hour have. -/
theorem offset?_sign_eq (hhours : hours < 100) (hminutes : minutes < 100) :
    offset? (sign :: (padded 2 hours ++ ':' :: padded 2 minutes)) =
      if hours ≤ 23 ∧ minutes ≤ 59 then
        some (if sign == '+' then ((3600 * hours + 60 * minutes : Nat) : Int)
          else -((3600 * hours + 60 * minutes : Nat) : Int), [])
      else none := by
  have hfirst : exactly? 2 (padded 2 hours ++ ':' :: padded 2 minutes) =
      some (hours, ':' :: padded 2 minutes) :=
    exactly?_padded hhours _
  have hlast : exactly? 2 (padded 2 minutes) = some (minutes, []) := exactly?_padded_end hminutes
  have hletter : ¬ (sign == 'Z' || sign == 'z') = true := by rcases hsign with rfl | rfl <;> decide
  have hsigned : (sign == '+' || sign == '-' || sign == '−') = true := by
    rcases hsign with rfl | rfl <;> decide
  rw [offset?, if_neg hletter, if_pos hsigned]
  refine bind_eq_of_eq_some hfirst (bind_eq_of_eq_some (char?_self _ _) ?_)
  exact bind_eq_of_eq_some hlast rfl

theorem offset?_sign (hhours : hours < 24) (hminutes : minutes < 60) :
    offset? (sign :: (padded 2 hours ++ ':' :: padded 2 minutes)) =
      some (if sign == '+' then ((3600 * hours + 60 * minutes : Nat) : Int)
        else -((3600 * hours + 60 * minutes : Nat) : Int), []) := by
  have hfits : hours ≤ 23 ∧ minutes ≤ 59 := by omega
  rw [offset?_sign_eq hsign (by omega) (by omega), if_pos hfits]

end Signs

theorem Offset.sign_cases (o : Offset) :
    (if o.behind then '-' else '+') = '+' ∨ (if o.behind then '-' else '+') = '-' := by
  cases o.behind <;> simp

theorem Offset.endsFraction_chars (o : Offset) : EndsFraction o.chars :=
  endsFraction_sign o.sign_cases _

theorem Offset.isStampChar_of_mem_chars {o : Offset} {c : Char} (h : c ∈ o.chars) :
    IsStampChar c :=
  isStampChar_of_mem_sign o.sign_cases h

/-- **An offset is read back.** -/
theorem Offset.offset?_chars (o : Offset) : offset? o.chars = some (o.seconds, []) := by
  obtain ⟨behind, hours, minutes, hhours, hminutes⟩ := o
  cases behind with
  | false => exact offset?_sign (.inl rfl) hhours hminutes
  | true => exact offset?_sign (.inr rfl) hhours hminutes

/-- **All forms of a timestamp agree.** Whatever stands around it, a date and a
time of day are read as the moment that they name in universal time: with the
letter for universal time, with no zone, and with a space in the middle. With an
offset they are read as the moment so much earlier, and what is not written is
zero. -/
theorem forms_agree (w : WallTime) (s : Surroundings) :
    Instant.read? (s.text (w.dateChars ++ 'T' :: (w.clockChars ++ ['Z']))) = some w.instant ∧
      Instant.read? (s.text (w.dateChars ++ 'T' :: w.clockChars)) = some w.instant ∧
      Instant.read? (s.text (w.dateChars ++ ' ' :: w.clockChars)) = some w.instant ∧
      (∀ o : Offset, Instant.read? (s.text (w.dateChars ++ 'T' :: (w.clockChars ++ o.chars))) =
        some ⟨w.instant.seconds - o.seconds, w.instant.nanos⟩) ∧
      Instant.read? (s.text (w.dateChars ++ 'T' :: w.minuteChars)) = some w.onMinute.instant ∧
      Instant.read? (s.text w.dateChars) = some w.onDay.instant := by
  have hbare {c : Char} (h : IsStampChar c) : IsVisibleChar c ∧ c ≠ '[' :=
    ⟨h.isVisibleChar, h.ne_bracket⟩
  have hclock : ∀ c ∈ w.clockChars, IsVisibleChar c ∧ c ≠ '[' := fun c hc =>
    hbare (w.isStampChar_of_mem_clockChars hc)
  have hclockNe : w.clockChars ≠ [] := by simp [WallTime.clockChars]
  have hminuteNe : w.minuteChars ≠ [] := by simp [WallTime.minuteChars]
  have hzoned {zone : List Char} {offset : Int} (hzone : ∀ c ∈ zone, IsVisibleChar c ∧ c ≠ '[')
      (hends : EndsFraction zone) (hoffset : offset? zone = some (offset, [])) :
      Instant.read? (s.text (w.dateChars ++ 'T' :: (w.clockChars ++ zone))) =
        some ⟨w.instant.seconds - offset, w.instant.nanos⟩ := by
    have hback : ∀ c ∈ w.clockChars ++ zone, IsVisibleChar c ∧ c ≠ '[' :=
      List.forall_mem_append.2 ⟨hclock, hzone⟩
    rw [Instant.read?, w.stampChars_dated s (by decide) (by simp [hclockNe]) hback,
      w.strict?_offset hends hoffset]
    rfl
  refine ⟨?_, ?_, ?_, fun o => ?_, ?_, ?_⟩
  · have hread : Instant.read? (s.text (w.dateChars ++ 'T' :: (w.clockChars ++ ['Z']))) =
        some ⟨w.instant.seconds - 0, w.instant.nanos⟩ :=
      hzoned (List.forall_mem_singleton.2 (by decide)) (stopsBefore_cons.2 (by decide)) rfl
    rwa [Int.sub_zero] at hread
  · rw [Instant.read?, w.stampChars_dated s (by decide) hclockNe hclock,
      w.strict?_clock_end (.inl rfl), w.lenient_letter]
    rfl
  · rw [Instant.read?, w.stampChars_dated s (by decide) hclockNe hclock,
      w.strict?_clock_end (.inr rfl), w.lenient_space]
    rfl
  · exact hzoned (fun c hc => hbare (Offset.isStampChar_of_mem_chars hc)) o.endsFraction_chars
      o.offset?_chars
  · rw [Instant.read?, w.stampChars_dated s (by decide) hminuteNe
      fun c hc => hbare (w.isStampChar_of_mem_minuteChars hc), w.strict?_minute_end,
      w.lenient_minute]
    rfl
  · rw [Instant.read?, w.stampChars_date s, w.strict?_date_end, w.lenient_date]
    rfl

/-- The last half second of the year 9999. -/
def lastHalfSecond : WallTime where
  date := ⟨9999, 12, 31⟩
  hour := 23
  minute := 59
  second := 59
  fraction := ['5']

/-- With clocks behind universal time it is in the year after. -/
theorem forms_agree_lastHalfSecond :
    Instant.read? "9999-12-31 23:59:59.5" = some ⟨253402300799, 500000000⟩ ∧
      Instant.read? "\t 9999-12-31T23:59:59.5-23:59[Etc/GMT+12] or so\n" =
        some ⟨253402387139, 500000000⟩ ∧
      Instant.read? "9999-12-31" = some ⟨253402214400, 0⟩ := by
  have hday : lastHalfSecond.date.count = 2932896 := by
    rw [← Date.toDays_eq_count lastHalfSecond.isValid_date lastHalfSecond.year_nonneg]
    decide
  have hinstant : lastHalfSecond.instant = ⟨253402300799, 500000000⟩ := by
    rw [WallTime.instant, hday]
    decide
  have hmidnight : lastHalfSecond.onDay.instant = ⟨253402214400, 0⟩ := by
    rw [WallTime.instant, show lastHalfSecond.onDay.date.count = 2932896 from hday]
    decide
  obtain ⟨-, -, hspace, -, -, hdate⟩ :=
    forms_agree lastHalfSecond ⟨[], [], [], rfl, rfl, .inl rfl⟩
  have hoffset := (forms_agree lastHalfSecond
    ⟨['\t', ' '], "[Etc/GMT+12] or so".toList, ['\n'], by decide, by decide, by decide⟩).2.2.2.1
      ⟨true, 23, 59, by decide, by decide⟩
  rw [hinstant] at hspace hoffset
  rw [hmidnight] at hdate
  exact ⟨hspace, hoffset, hdate⟩

end EntityGraph.Time
