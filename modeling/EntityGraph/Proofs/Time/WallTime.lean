import EntityGraph.Proofs.Time.Count
import EntityGraph.Proofs.Time.Stamp
/-!
# A date and a time of day, and how they are written

Fields of a calendar and a clock, the moment that they name in universal time,
and the parts of a text that has them. What may stand around the text is white
space, and a bracket behind it with any text. A timestamp has neither white space
at its ends nor a bracket, so it is what is read of the whole (`stampChars_text`).
-/

namespace EntityGraph.Time

open Number (padded ofDigits isDigit_of_mem_padded length_padded)
open Text

/-! ### What is written -/

/-- A date and a time of day: a day of the calendar in a year of four digits, an
hour, a minute and a second of the clock, and up to nine digits of a fraction. -/
structure WallTime where
  date : Date
  hour : Nat
  minute : Nat
  second : Nat
  fraction : List Char
  isValid_date : date.isValid = true := by decide
  year_nonneg : 0 ≤ date.year := by decide
  year_le : date.year ≤ 9999 := by decide
  hour_lt : hour < 24 := by decide
  minute_lt : minute < 60 := by decide
  second_lt : second < 60 := by decide
  isDigit_fraction : fraction.all Char.isDigit = true := by decide
  length_fraction_le : fraction.length ≤ 9 := by decide

/-- A number of whole minutes, less than a day, by which clocks are ahead of
universal time or behind it. -/
structure Offset where
  behind : Bool
  hours : Nat
  minutes : Nat
  hours_lt : hours < 24 := by decide
  minutes_lt : minutes < 60 := by decide

/-- What may stand around a timestamp: white space, and behind it a bracket and
any text. -/
structure Surroundings where
  before : List Char
  zone : List Char
  after : List Char
  isBlank_before : before.all isBlankChar = true := by decide
  isBlank_after : after.all isBlankChar = true := by decide
  zone_bracket : zone = [] ∨ zone.head? = some '[' := by decide

namespace WallTime

/-- The nanoseconds of the fraction. -/
def nanos (w : WallTime) : Nat :=
  ofDigits 0 w.fraction * Nat.pow 10 (9 - w.fraction.length)

/-- The moment at which clocks of universal time show a date and a time of day:
the days counted up to the date, and the time that has passed of the day. -/
def instant (w : WallTime) : Instant where
  seconds := secondsPerDay * w.date.count + (3600 * w.hour + 60 * w.minute + w.second : Nat)
  nanos := w.nanos

/-- The same date and time of day, without seconds. -/
def onMinute (w : WallTime) : WallTime where
  __ := w
  second := 0
  fraction := []
  second_lt := by decide
  isDigit_fraction := rfl
  length_fraction_le := by simp

/-- The start of the same date. -/
def onDay (w : WallTime) : WallTime where
  __ := w.onMinute
  hour := 0
  minute := 0
  hour_lt := by decide
  minute_lt := by decide

/-- The date. -/
def dateChars (w : WallTime) : List Char :=
  padded 4 w.date.year.toNat ++ '-' :: (padded 2 w.date.month ++ '-' :: padded 2 w.date.day)

/-- Hours and minutes. -/
def minuteChars (w : WallTime) : List Char :=
  padded 2 w.hour ++ ':' :: padded 2 w.minute

/-- The digits of the fraction behind a point, or nothing. -/
def pointChars (w : WallTime) : List Char :=
  if w.fraction.isEmpty then [] else '.' :: w.fraction

/-- The whole time of day. -/
def clockChars (w : WallTime) : List Char :=
  w.minuteChars ++ ':' :: (padded 2 w.second ++ w.pointChars)

end WallTime

namespace Offset

/-- The number of seconds. -/
def seconds (o : Offset) : Int :=
  let magnitude : Int := (3600 * o.hours + 60 * o.minutes : Nat)
  if o.behind then -magnitude else magnitude

/-- A sign, hours and minutes. -/
def chars (o : Offset) : List Char :=
  (if o.behind then '-' else '+') :: (padded 2 o.hours ++ ':' :: padded 2 o.minutes)

end Offset

/-- A text with what stands around it. -/
def Surroundings.text (s : Surroundings) (cs : List Char) : String :=
  String.ofList (s.before ++ (cs ++ (s.zone ++ s.after)))

/-! ### What stands around -/

theorem dropBlanks_append {gap cs : List Char} (hgap : ∀ c ∈ gap, isBlankChar c = true)
    (hcs : StopsBefore isBlankChar cs) : dropBlanks (gap ++ cs) = cs :=
  dropWhile_append_stop hgap hcs

theorem dropBlanks_eq_self {cs : List Char} (hcs : StopsBefore isBlankChar cs) :
    dropBlanks cs = cs :=
  dropBlanks_append (List.forall_mem_nil _) hcs

/-- White space is taken off behind a character that is none, and that
character and all before it are left alone. -/
theorem trimEnd_append {cs : List Char} (hlast : StopsBefore isBlankChar cs.reverse)
    (rest : List Char) : (dropBlanks (cs ++ rest).reverse).reverse =
      cs ++ (dropBlanks rest.reverse).reverse := by
  have hfront : dropBlanks cs.reverse = cs.reverse := dropBlanks_eq_self hlast
  rw [List.reverse_append, dropBlanks, List.dropWhile_append]
  split
  · next hempty =>
    rw [← dropBlanks, hfront, dropBlanks, List.isEmpty_iff.1 hempty]
    simp
  · rw [List.reverse_append, List.reverse_reverse]
    rfl

/-- **Of a text and what stands around it, the text is read,** if it starts and
ends with characters other than white space and has no bracket in it. -/
theorem stampChars_text (s : Surroundings) {cs : List Char} (hne : cs ≠ [])
    (hfirst : StopsBefore isBlankChar cs) (hlast : StopsBefore isBlankChar cs.reverse)
    (hbracket : ∀ c ∈ cs, c ≠ '[') : stampChars (s.text cs) = cs := by
  have hfront : StopsBefore isBlankChar (cs ++ (s.zone ++ s.after)) := by
    obtain ⟨c, more, rfl⟩ := List.exists_cons_of_ne_nil hne
    exact stopsBefore_cons.2 (stopsBefore_cons.1 hfirst)
  -- What is left behind the text starts with the bracket, if it is anything.
  have hrest : ((dropBlanks (s.zone ++ s.after).reverse).reverse).takeWhile (· != '[') = [] := by
    rcases s.zone_bracket with hnone | hsome
    · have hblank : dropBlanks s.after.reverse = [] :=
        dropBlanks_eq_nil.2 (List.all_eq_true.2 fun c hc =>
          List.all_eq_true.1 s.isBlank_after c (List.mem_reverse.1 hc))
      rw [hnone, List.nil_append, hblank]
      rfl
    · obtain ⟨name, hzone⟩ := List.head?_eq_some_iff.1 hsome
      have hbare : StopsBefore isBlankChar (['['] : List Char).reverse :=
        stopsBefore_cons.2 (by decide)
      rw [hzone, List.cons_append, ← List.singleton_append, trimEnd_append hbare]
      rfl
  rw [stampChars, Surroundings.text, String.toList_ofList, trimChars,
    dropBlanks_append (List.all_eq_true.1 s.isBlank_before) hfront, trimEnd_append hlast,
    List.takeWhile_append_of_pos fun c hc => by simpa using hbracket c hc, hrest, List.append_nil]

/-! ### The characters of a timestamp -/

theorem exists_padded {width : Nat} (hpos : 0 < width) (n : Nat) :
    ∃ c cs, padded width n = c :: cs ∧ c.isDigit = true := by
  have hne : padded width n ≠ [] := by
    rw [← List.length_pos_iff, length_padded]
    exact hpos
  obtain ⟨c, cs, hcs⟩ := List.exists_cons_of_ne_nil hne
  exact ⟨c, cs, hcs, isDigit_of_mem_padded (hcs ▸ List.mem_cons_self)⟩

/-- There is no white space in front of a number to be passed over. -/
theorem stopsBefore_padded {width : Nat} (hpos : 0 < width) (n : Nat) (rest : List Char) :
    StopsBefore isBlankChar (padded width n ++ rest) := by
  obtain ⟨c, cs, hcs, hdigit⟩ := exists_padded hpos n
  rw [hcs, List.cons_append, stopsBefore_cons]
  exact isBlankChar_of_isVisibleChar (isVisibleChar_of_isDigit hdigit)

/-- Nor is there any behind visible characters. -/
theorem stopsBefore_reverse {cs : List Char} (hne : cs ≠ []) (h : ∀ c ∈ cs, IsVisibleChar c)
    (rest : List Char) : StopsBefore isBlankChar (cs.reverse ++ rest) := by
  obtain ⟨last, front, hlast⟩ := List.exists_cons_of_ne_nil (List.reverse_ne_nil_iff.2 hne)
  have hmem : last ∈ cs := List.mem_reverse.1 (hlast ▸ List.mem_cons_self)
  rw [hlast, List.cons_append, stopsBefore_cons]
  exact isBlankChar_of_isVisibleChar (h last hmem)

namespace WallTime

variable (w : WallTime)

theorem isStampChar_of_mem_dateChars {c : Char} (h : c ∈ w.dateChars) : IsStampChar c := by
  simp only [dateChars, List.mem_append, List.mem_cons] at h
  rcases h with h | rfl | h | rfl | h
  all_goals first
    | exact isStampChar_of_mem_padded h
    | exact .inr (by decide)

theorem isStampChar_of_mem_minuteChars {c : Char} (h : c ∈ w.minuteChars) : IsStampChar c := by
  simp only [minuteChars, List.mem_append, List.mem_cons] at h
  rcases h with h | rfl | h
  all_goals first
    | exact isStampChar_of_mem_padded h
    | exact .inr (by decide)

theorem isStampChar_of_mem_clockChars {c : Char} (h : c ∈ w.clockChars) : IsStampChar c := by
  simp only [clockChars, pointChars, List.mem_append, List.mem_cons] at h
  rcases h with h | rfl | h | h
  · exact w.isStampChar_of_mem_minuteChars h
  · exact .inr (by decide)
  · exact isStampChar_of_mem_padded h
  split at h
  · simp at h
  rcases List.mem_cons.1 h with rfl | h
  · exact .inr (by decide)
  · exact .inl (List.all_eq_true.1 w.isDigit_fraction c h)

theorem stopsBefore_dateChars (rest : List Char) :
    StopsBefore isBlankChar (w.dateChars ++ rest) := by
  rw [dateChars, List.append_assoc]
  exact stopsBefore_padded (by decide) _ _

/-- Of a date and what comes behind it all is read, whatever stands around. -/
theorem stampChars_dated (s : Surroundings) {letter : Char} {back : List Char}
    (hletter : letter ≠ '[') (hne : back ≠ [])
    (hback : ∀ c ∈ back, IsVisibleChar c ∧ c ≠ '[') :
    stampChars (s.text (w.dateChars ++ letter :: back)) = w.dateChars ++ letter :: back := by
  refine stampChars_text s (by simp) (w.stopsBefore_dateChars _) ?_ ?_
  · rw [List.reverse_append, List.reverse_cons, List.append_assoc]
    exact stopsBefore_reverse hne (fun c hc => (hback c hc).1) _
  · intro c hc
    rcases List.mem_append.1 hc with hc | hc
    · exact (w.isStampChar_of_mem_dateChars hc).ne_bracket
    rcases List.mem_cons.1 hc with rfl | hc
    · exact hletter
    · exact (hback c hc).2

/-- And of a date alone. -/
theorem stampChars_date (s : Surroundings) : stampChars (s.text w.dateChars) = w.dateChars := by
  have hne : w.dateChars ≠ [] := by simp [dateChars]
  have hfirst := w.stopsBefore_dateChars []
  have hlast := stopsBefore_reverse hne
    (fun c hc => (w.isStampChar_of_mem_dateChars hc).isVisibleChar) []
  rw [List.append_nil] at hfirst hlast
  exact stampChars_text s hne hfirst hlast fun c hc =>
    (w.isStampChar_of_mem_dateChars hc).ne_bracket

end WallTime

end EntityGraph.Time
