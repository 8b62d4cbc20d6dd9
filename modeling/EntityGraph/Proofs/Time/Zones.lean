import EntityGraph.Proofs.Time.Forms
import EntityGraph.Proofs.Time.Rereading
/-!
# What clocks show, read back

A moment may be written as clocks show it that are not set to universal time, with
their offset behind it or with nothing. With nothing behind it, it is read as if
they were set to it (`Instant.read?_wallChars`). An offset is written to the nearest
minute. What is read is earlier by so many minutes, and it is nothing when the
nearest minute is a whole day away, since no form has an offset of 24 hours
(`Instant.read?_offsetChars`). So it is read as the moment that it is exactly when
its offset has no seconds (`Instant.readAt?_eq_iff`).
-/

namespace EntityGraph.Time

open Number (padded)
open Text (stopsBefore_nil stopsBefore_cons)

/-! ### Offsets to the nearest minute -/

/-- The whole minutes, in seconds, that are nearest to an offset. -/
def nearestMinute (offset : Int) : Int :=
  let magnitude : Int := (60 * ((offset.natAbs + 30) / 60) : Nat)
  if offset < 0 then -magnitude else magnitude

theorem nearestMinute_eq_self_iff {offset : Int} :
    nearestMinute offset = offset ↔ offset % 60 = 0 := by
  unfold nearestMinute
  dsimp only
  split <;> omega

/-- The sign that an offset is written with. -/
def signChar (offset : Int) : Char :=
  if offset < 0 then '-' else '+'

theorem signChar_cases (offset : Int) : signChar offset = '+' ∨ signChar offset = '-' := by
  rw [signChar]
  split
  · exact .inr rfl
  · exact .inl rfl

theorem endsFraction_offsetChars (offset : Int) : EndsFraction (offsetChars offset) :=
  endsFraction_sign (signChar_cases offset) _

theorem isStampChar_of_mem_offsetChars {offset : Int} {c : Char} (h : c ∈ offsetChars offset) :
    IsStampChar c :=
  isStampChar_of_mem_sign (signChar_cases offset) h

/-- **An offset is read to the nearest minute,** and not at all when that is a
whole day. -/
theorem offset?_offsetChars {offset : Int} (h : offset.natAbs < 86400) :
    offset? (offsetChars offset) =
      if offset.natAbs < 86370 then some (nearestMinute offset, []) else none := by
  obtain ⟨minutes, hminutes⟩ : ∃ minutes, minutes = (offset.natAbs + 30) / 60 := ⟨_, rfl⟩
  have hfits : minutes / 60 ≤ 23 ∧ minutes % 60 ≤ 59 ↔ offset.natAbs < 86370 := by omega
  have hwhole : 3600 * (minutes / 60) + 60 * (minutes % 60) = 60 * minutes := by omega
  have hshort : minutes / 60 < 100 ∧ minutes % 60 < 100 := by omega
  have hread : offset? (offsetChars offset) = _ :=
    offset?_sign_eq (signChar_cases offset) (hminutes ▸ hshort.1) (hminutes ▸ hshort.2)
  rw [hread, signChar, nearestMinute, ← hminutes, hwhole]
  simp only [hfits]
  by_cases hbehind : offset < 0 <;> simp [hbehind]

namespace Instant

variable {t : Instant} (ht : t.IsProper) (hlow : 0 ≤ t.year) (hhigh : t.year ≤ 9999)

/-! ### In the lenient forms -/

/-- The date that clocks show, in fields. -/
def dateFields (t : Instant) : Fields :=
  let date := Date.ofDays (t.seconds / secondsPerDay)
  { year := date.year, month := date.month, day := date.day }

include hlow hhigh in
/-- What clocks show starts with the date in every lenient form. -/
theorem readPieces?_wallChars (pieces : List Piece) (zone : List Char) :
    readPieces? (datePieces ++ pieces) {} (wallChars t.seconds t.nanos ++ zone) =
      readPieces? pieces t.dateFields
        ('T' :: (clockChars (t.seconds % secondsPerDay).toNat t.nanos ++ zone)) := by
  let midnight : WallTime :=
    { date := Date.ofDays (t.seconds / secondsPerDay), hour := 0, minute := 0, second := 0
      fraction := [], isValid_date := Date.isValid_ofDays _, year_nonneg := hlow, year_le := hhigh }
  have hdate : (Date.ofDays (t.seconds / secondsPerDay)).toChars = midnight.dateChars := by
    have hyear : 0 ≤ t.year ∧ t.year ≤ 9999 := ⟨hlow, hhigh⟩
    unfold year at hyear
    rw [Date.toChars, yearChars, if_pos hyear]
    simp [WallTime.dateChars, midnight]
  have hfields : midnight.onDay.fields = t.dateFields := by
    rw [WallTime.fields, WallTime.nanos_onDay]
    rfl
  rw [wallChars, hdate, List.append_assoc, midnight.readPieces?_date, hfields]
  rfl

include ht in
/-- And the first of them goes on to the end of the clock. -/
theorem readPieces?_clockChars :
    readPieces? clockPieces t.dateFields
      (clockChars (t.seconds % secondsPerDay).toNat t.nanos) = some t.fields := by
  obtain ⟨hhour, hminute, hsecond⟩ :
      t.fields.hour < 100 ∧ t.fields.minute < 100 ∧ t.fields.second < 100 := by
    have hvalid := fields_isValid ht
    simp only [Fields.isValid, Bool.and_eq_true, decide_eq_true_eq] at hvalid
    omega
  have hnanos : t.fields.nanos < nanosPerSecond := Nat.mod_lt _ (by decide)
  have hfraction := fraction?_fractionChars hnanos (stopsBefore_nil _)
  have hchars : clockChars (t.seconds % secondsPerDay).toNat t.nanos =
      padded 2 t.fields.hour ++ ':' :: (padded 2 t.fields.minute ++ ':' ::
        (padded 2 t.fields.second ++ fractionChars t.fields.nanos)) := by
    simp [clockChars, fields]
  rw [List.append_nil] at hfraction
  rw [hchars, readPieces?_clockPieces hhour hminute hsecond hfraction]
  rfl

include ht hlow hhigh

/-- Without an offset what clocks show is in the first lenient form. -/
theorem lenient_wallChars :
    lenientForms.findSome? (lenient? (wallChars t.seconds t.nanos)) = some t := by
  have hread : readPieces? (datePieces ++ .letter 'T' :: clockPieces) {}
      (wallChars t.seconds t.nanos) = some t.fields := by
    have hdate := readPieces?_wallChars hlow hhigh (.letter 'T' :: clockPieces) []
    rw [List.append_nil, List.append_nil] at hdate
    rw [hdate, readPieces?_letter, readPieces?_clockChars ht]
  have hyear : isLenientYear t.fields.year = true := by
    have hsame : t.fields.year = t.year := rfl
    simp only [isLenientYear, Bool.and_eq_true, decide_eq_true_eq]
    omega
  have hfirst : lenient? (wallChars t.seconds t.nanos)
      (datePieces ++ .letter 'T' :: clockPieces) = some t := by
    rw [lenient?, hread]
    refine (if_pos ⟨hyear, fields_isValid ht⟩).trans ?_
    rw [toInstant_fields ht, Int.sub_zero]
  rw [lenientForms, List.findSome?_cons, hfirst]

omit ht in
/-- With one it is in none of them: behind the date no piece reads a sign. -/
theorem lenient_offsetChars (offset : Int) :
    lenientForms.findSome? (lenient? (wallChars t.seconds t.nanos ++ offsetChars offset)) =
      none := by
  have hsign := signChar_cases offset
  have hmark : IsMark (signChar offset) := by rcases hsign with h | h <;> rw [h] <;> exact {}
  have hforms : ∀ form ∈ lenientForms, form = datePieces ++ form.drop 5 ∧
      ∀ p ∈ form.drop 5, p ≠ .year ∧ p ≠ .letter '+' ∧ p ≠ .letter '-' := by decide
  refine List.findSome?_eq_none_iff.2 fun form hform => WallTime.lenient?_of_none ?_
  obtain ⟨hdate, hpieces⟩ := hforms form hform
  have hinner : ∀ p ∈ form.drop 5, p.IsInner (signChar offset) := by
    intro p hp
    obtain ⟨hyear, hplus, hminus⟩ := hpieces p hp
    refine ⟨hyear, ?_⟩
    rcases hsign with h | h <;> rw [h]
    · exact hplus
    · exact hminus
  have hmem : signChar offset ∈ offsetChars offset := List.mem_cons_self
  rw [hdate, readPieces?_wallChars hlow hhigh]
  exact readPieces?_of_mark_mem hmark hinner _ (by simp [hmem])

/-! ### Whole texts -/

/-- **Without an offset a moment is read as clocks show it.** -/
theorem read?_wallChars :
    Instant.read? (String.ofList (wallChars t.seconds t.nanos)) = some t := by
  have hstrict : strict? (wallChars t.seconds t.nanos) = none := by
    have hread := strict?_wallChars_eq ht hlow hhigh (stopsBefore_nil _)
    rw [List.append_nil] at hread
    rw [hread]
    rfl
  rw [read?, stampChars_ofList fun c hc => isStampChar_of_mem_wallChars hc, hstrict,
    lenient_wallChars ht hlow hhigh]
  rfl

/-- The moment that is read when clocks show one at some offset: as much earlier as
the nearest whole minutes, and none when these are a whole day. -/
def readAt? (t : Instant) (offset : Int) : Option Instant :=
  if offset.natAbs < 86370 then some ⟨t.seconds - nearestMinute offset, t.nanos⟩ else none

omit ht hlow hhigh in
@[simp] theorem readAt?_zero : t.readAt? 0 = some t := by
  simp [readAt?, nearestMinute]

omit ht hlow hhigh in
/-- **It is the moment that it is exactly when the offset has no seconds.** -/
theorem readAt?_eq_iff {offset : Int} (h : offset.natAbs < 86400) :
    t.readAt? offset = some ⟨t.seconds - offset, t.nanos⟩ ↔ offset % 60 = 0 := by
  rw [readAt?, ← nearestMinute_eq_self_iff]
  split
  · simp
  · next hday =>
    -- Within half a minute of a day there are no whole minutes.
    have hseconds : nearestMinute offset ≠ offset := by
      rw [Ne, nearestMinute_eq_self_iff]
      omega
    simpa using hseconds

/-- **With an offset it is read to the nearest minute.** -/
theorem read?_offsetChars {offset : Int} (h : offset.natAbs < 86400) :
    Instant.read? (String.ofList (wallChars t.seconds t.nanos ++ offsetChars offset)) =
      t.readAt? offset := by
  have hstamp : ∀ c ∈ wallChars t.seconds t.nanos ++ offsetChars offset, IsStampChar c :=
    List.forall_mem_append.2 ⟨fun c hc => isStampChar_of_mem_wallChars hc,
      fun c hc => isStampChar_of_mem_offsetChars hc⟩
  rw [read?, stampChars_ofList hstamp, lenient_offsetChars hlow hhigh,
    strict?_wallChars_eq ht hlow hhigh (endsFraction_offsetChars offset), offset?_offsetChars h,
    readAt?]
  split <;> rfl

end Instant

end EntityGraph.Time
