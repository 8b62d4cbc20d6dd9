import EntityGraph.Time.Civil
/-!
# The calendar

Every number of days is the number of its date, and its date exists
(`Date.toDays_ofDays`, `Date.isValid_ofDays`). An era of 400 years is cut into
centuries of 36524 days, cycles of 1461 and years of 365; what is left over,
one day at the most, falls on the last year of the cycle. The formula for the
year of a day is checked against this cut once, and everything else is about a
single year from March on.
-/

namespace EntityGraph.Time

/-! ### An era in parts -/

/-- A day of an era: its century, the cycle of four years in the century, the
year of the cycle and the day of the year, all counted from zero. The day 365
is there in the last year of a cycle alone, and in the last cycle of a century
only when the century is the last one. -/
structure EraDay where
  century : Nat
  cycle : Nat
  year : Nat
  day : Nat
  century_le : century ≤ 3
  cycle_le : cycle ≤ 24
  year_le : year ≤ 3
  day_le : day ≤ 365
  year_of_leap : day = 365 → year = 3
  century_of_leap : day = 365 → cycle = 24 → century = 3

namespace EraDay

/-- The number of days of the era before a day. -/
def number (p : EraDay) : Nat :=
  36524 * p.century + 1461 * p.cycle + 365 * p.year + p.day

/-- The number of years of the era before the year of a day. -/
def yearOfEra (p : EraDay) : Nat :=
  100 * p.century + 4 * p.cycle + p.year

theorem yearOfEra_lt (p : EraDay) : p.yearOfEra < 400 := by
  have := p.century_le
  have := p.cycle_le
  have := p.year_le
  unfold yearOfEra
  omega

/-- **Every day of an era has its parts.** Each part is a quotient, but for
the last day of all and the last of a cycle, which a quotient would count as
one part more. -/
theorem exists_of_lt {days : Nat} (h : days < 146097) : ∃ p : EraDay, p.number = days := by
  obtain ⟨century, inCentury, hcentury, hdays, hlast⟩ : ∃ c e, c ≤ 3 ∧ days = 36524 * c + e ∧
      (e < 36524 ∨ e = 36524 ∧ c = 3) := by
    refine ⟨if days = 146096 then 3 else days / 36524,
      if days = 146096 then 36524 else days % 36524, ?_⟩
    split <;> omega
  obtain ⟨cycle, inCycle, hcycle, hinCentury, hinCycle⟩ : ∃ q t, q ≤ 24 ∧
      inCentury = 1461 * q + t ∧ t < 1461 :=
    ⟨inCentury / 1461, inCentury % 1461, by omega⟩
  obtain ⟨year, day, hyear, hday, hleap⟩ : ∃ u r, u ≤ 3 ∧ inCycle = 365 * u + r ∧
      (r < 365 ∨ r = 365 ∧ u = 3) := by
    refine ⟨if inCycle = 1460 then 3 else inCycle / 365,
      if inCycle = 1460 then 365 else inCycle % 365, ?_⟩
    split <;> omega
  refine ⟨⟨century, cycle, year, day, hcentury, hcycle, hyear, by omega, by omega, by omega⟩, ?_⟩
  show 36524 * century + 1461 * cycle + 365 * year + day = days
  omega

/-- **The year that is reckoned from the number of a day is its year.** The
leap days that went before are one for each 1460 days, less one for each
century but the last. -/
theorem year_number (p : EraDay) : (p.number - p.number / 1460 + p.number / 36524
    - p.number / 146096) / 365 = p.yearOfEra := by
  obtain ⟨century, cycle, year, day, hcentury, hcycle, hyear, hday, hleap, hlast⟩ := p
  unfold number yearOfEra
  dsimp only
  generalize hdays : 36524 * century + 1461 * cycle + 365 * year + day = days
  have hcenturies : days / 36524 = century + days / 146096 := by
    obtain hend | hbefore : days = 146096 ∨ days < 146096 := by omega
    · omega
    · rw [Nat.div_eq_of_lt hbefore]
      omega
  -- Each century is 24 days longer than 25 times 1460, and each cycle one.
  have hcycles : days / 1460 =
      25 * century + cycle + (24 * century + cycle + 365 * year + day) / 1460 := by
    omega
  have hrest : (24 * century + cycle + 365 * year + day) / 1460 = 0 ∨
      (24 * century + cycle + 365 * year + day) / 1460 = 1 ∧ year = 3 ∧ 1 ≤ day := by
    omega
  omega

/-- The days before a year of the era, and the day of the year. -/
theorem yearStart_add_day (p : EraDay) :
    365 * p.yearOfEra + p.yearOfEra / 4 - p.yearOfEra / 100 + p.day = p.number := by
  obtain ⟨century, cycle, year, day, hcentury, hcycle, hyear, hday, hleap, hlast⟩ := p
  unfold number yearOfEra
  dsimp only
  omega

/-- A year with a day 365 is followed by the February of a leap year. -/
theorem isLeapYear_of_day (p : EraDay) (era : Int) (h : p.day = 365) :
    isLeapYear (p.yearOfEra + 400 * era + 1) = true := by
  have hyear := p.year_of_leap h
  have hcentury := p.century_of_leap h
  have := p.century_le
  have := p.cycle_le
  unfold yearOfEra
  simp only [isLeapYear, Bool.and_eq_true, Bool.or_eq_true, beq_iff_eq, bne_iff_ne]
  omega

end EraDay

/-! ### A year from March on -/

/-- The date of a day of the year that starts with March. -/
def marchDate (year : Int) (day : Nat) : Date :=
  let month := (5 * day + 2) / 153
  { year := year + if 10 ≤ month then 1 else 0
    month := if month < 10 then month + 3 else month - 9
    day := day - (153 * month + 2) / 5 + 1 }

/-- From March to December. -/
theorem marchDate_of_lt {day : Nat} (year : Int) (h : (5 * day + 2) / 153 < 10) :
    marchDate year day = ⟨year, (5 * day + 2) / 153 + 3,
      day - (153 * ((5 * day + 2) / 153) + 2) / 5 + 1⟩ := by
  simp [marchDate, h, Nat.not_le.2 h]

/-- January and February belong to the next year. -/
theorem marchDate_of_le {day : Nat} (year : Int) (h : 10 ≤ (5 * day + 2) / 153) :
    marchDate year day = ⟨year + 1, (5 * day + 2) / 153 - 9,
      day - (153 * ((5 * day + 2) / 153) + 2) / 5 + 1⟩ := by
  simp [marchDate, h, Nat.not_lt.2 h]

/-- The number of a date is put together from the days of the eras, the years
and the months before it. -/
theorem toDays_marchDate {yearOfEra day : Nat} (era : Int) (hyear : yearOfEra < 400)
    (hday : day ≤ 365) : (marchDate (yearOfEra + 400 * era) day).toDays =
      146097 * era + (365 * yearOfEra + yearOfEra / 4 - yearOfEra / 100 + day : Nat) - 719468 := by
  have hbefore : (153 * ((5 * day + 2) / 153) + 2) / 5 ≤ day := by omega
  by_cases hmonth : (5 * day + 2) / 153 < 10
  · have hindex : ((5 * day + 2) / 153 + 3 + 9) % 12 = (5 * day + 2) / 153 := by omega
    rw [marchDate_of_lt _ hmonth, Date.toDays]
    dsimp only
    rw [if_neg (by omega), hindex]
    omega
  · have hindex : ((5 * day + 2) / 153 - 9 + 9) % 12 = (5 * day + 2) / 153 := by omega
    rw [marchDate_of_le _ (by omega), Date.toDays]
    dsimp only
    rw [if_pos (by omega), hindex]
    omega

theorem isValid_marchDate {year : Int} {day : Nat} (hday : day ≤ 365)
    (hleap : day = 365 → isLeapYear (year + 1) = true) : (marchDate year day).isValid = true := by
  have hmonths : (5 * day + 2) / 153 ≤ 11 := by omega
  by_cases hmonth : (5 * day + 2) / 153 < 10
  · rw [marchDate_of_lt _ hmonth, Date.isValid]
    generalize hm : (5 * day + 2) / 153 = month at hmonth ⊢
    obtain rfl | rfl | rfl | rfl | rfl | rfl | rfl | rfl | rfl | rfl : month = 0 ∨ month = 1 ∨
        month = 2 ∨ month = 3 ∨ month = 4 ∨ month = 5 ∨ month = 6 ∨ month = 7 ∨ month = 8 ∨
        month = 9 := by omega
    all_goals
      simp only [daysInMonth, Bool.and_eq_true, decide_eq_true_eq]
      omega
  · rw [marchDate_of_le _ (by omega), Date.isValid]
    obtain hm | hm : (5 * day + 2) / 153 = 10 ∨ (5 * day + 2) / 153 = 11 := by omega
    · simp only [hm, daysInMonth, Bool.and_eq_true, decide_eq_true_eq]
      omega
    -- The last month has a day 29 when the year is long, that is, has a day 365.
    · simp only [hm, daysInMonth, Bool.and_eq_true, decide_eq_true_eq]
      by_cases hlong : day = 365
      · rw [if_pos (hleap hlong)]
        omega
      · split <;> omega

/-! ### Dates of all days -/

/-- A number of days is cut into its era and the parts of the day of the
era. -/
theorem Date.ofDays_eq (days : Int) : ∃ (era : Int) (p : EraDay),
    days + 719468 = 146097 * era + p.number ∧
      Date.ofDays days = marchDate (p.yearOfEra + 400 * era) p.day := by
  have hlt : ((days + 719468) % 146097).toNat < 146097 := by omega
  obtain ⟨p, hp⟩ := EraDay.exists_of_lt hlt
  have hday : p.number - (365 * p.yearOfEra + p.yearOfEra / 4 - p.yearOfEra / 100) = p.day := by
    have := p.yearStart_add_day
    omega
  refine ⟨(days + 719468) / 146097, p, by omega, ?_⟩
  rw [Date.ofDays, ← hp, p.year_number, hday, marchDate]

/-- **A number of days is the number of its date.** -/
theorem Date.toDays_ofDays (days : Int) : (Date.ofDays days).toDays = days := by
  obtain ⟨era, p, hdays, hdate⟩ := Date.ofDays_eq days
  rw [hdate, toDays_marchDate era p.yearOfEra_lt p.day_le, p.yearStart_add_day]
  omega

/-- **The date of a number of days is one of the calendar.** -/
theorem Date.isValid_ofDays (days : Int) : (Date.ofDays days).isValid = true := by
  obtain ⟨era, p, -, hdate⟩ := Date.ofDays_eq days
  rw [hdate]
  exact isValid_marchDate p.day_le (p.isLeapYear_of_day era)

/-- Both numbers of a date of the calendar have two digits. -/
theorem Date.lt_of_isValid {d : Date} (h : d.isValid = true) : d.month < 100 ∧ d.day < 100 := by
  have hdays : daysInMonth d.year d.month ≤ 31 := by
    unfold daysInMonth
    split
    -- February alone depends on the year.
    case h_12 => split <;> omega
    all_goals omega
  have hmonth : 12 < d.month → daysInMonth d.year d.month = 0 := by
    intro hlt
    unfold daysInMonth
    split <;> omega
  simp only [Date.isValid, Bool.and_eq_true, decide_eq_true_eq] at h
  omega

end EntityGraph.Time
