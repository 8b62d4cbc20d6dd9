import EntityGraph.Proofs.Time.Civil
/-!
# Days counted

The number of a date is what counting gives: the days of the years before its
year, of the months before its month and of the month before its day, less those
up to the start of 1970 (`Date.toDays_eq_count`). The count knows nothing of eras
or of years that start in March; it adds up the lengths of years and months.
-/

namespace EntityGraph.Time

/-- The number of days of a year. -/
def yearLength (year : Int) : Nat :=
  if isLeapYear year then 366 else 365

/-- The days of the years from year 0 up to a year, without it. -/
def daysBeforeYear : Nat → Nat
  | 0 => 0
  | year + 1 => daysBeforeYear year + yearLength year

/-- The days of a year up to a month, without it. There is no month 0 and so
none of its days. -/
def daysBeforeMonth (year : Int) : Nat → Nat
  | 0 => 0
  | month + 1 => daysBeforeMonth year month + daysInMonth year month

/-- The days from the start of 1970 to a date, counted one year and one month
after the other. -/
def Date.count (d : Date) : Int :=
  (daysBeforeYear d.year.toNat + daysBeforeMonth d.year d.month + (d.day - 1) : Nat) -
    (daysBeforeYear 1970 : Nat)

/-- The years before a year have a leap day for each multiple of four among them,
but for those multiples of 100 that are not multiples of 400. -/
theorem daysBeforeYear_eq (year : Nat) :
    daysBeforeYear year + (year + 99) / 100 = 365 * year + (year + 3) / 4 + (year + 399) / 400 := by
  induction year with
  | zero => rfl
  | succ year ih =>
    rw [daysBeforeYear, yearLength]
    cases hleap : isLeapYear year with
    | true =>
      simp only [isLeapYear, Bool.and_eq_true, Bool.or_eq_true, beq_iff_eq, bne_iff_ne] at hleap
      rw [if_pos rfl]
      omega
    | false =>
      simp only [isLeapYear, Bool.and_eq_false_iff, Bool.or_eq_false_iff, beq_eq_false_iff_ne,
        bne_eq_false_iff_eq] at hleap
      rw [if_neg (by decide)]
      rcases hleap with hfour | hcentury
      · omega
      · omega

/-- January and February have their days before them whatever the year, and from
March on the leap day comes to the five-month pattern of the other months. -/
theorem daysBeforeMonth_eq (year : Int) {month : Nat} (hlow : 1 ≤ month) (hhigh : month ≤ 12) :
    daysBeforeMonth year month = if month ≤ 2 then 31 * (month - 1)
      else yearLength year - 306 + (153 * (month - 3) + 2) / 5 := by
  obtain rfl | rfl | rfl | rfl | rfl | rfl | rfl | rfl | rfl | rfl | rfl | rfl : month = 1 ∨
      month = 2 ∨ month = 3 ∨ month = 4 ∨ month = 5 ∨ month = 6 ∨ month = 7 ∨ month = 8 ∨
      month = 9 ∨ month = 10 ∨ month = 11 ∨ month = 12 := by omega
  all_goals
    cases hleap : isLeapYear year <;> simp [daysBeforeMonth, daysInMonth, yearLength, hleap]

/-- A date of the calendar is in one of the twelve months. -/
theorem Date.month_of_isValid {d : Date} (hd : d.isValid = true) : 1 ≤ d.month ∧ d.month ≤ 12 := by
  simp only [Date.isValid, Bool.and_eq_true, decide_eq_true_eq] at hd
  have hdays : daysInMonth d.year d.month ≠ 0 := by omega
  refine Decidable.byContradiction fun hnone => hdays ?_
  unfold daysInMonth
  split <;> omega

/-- The days of whole years, cut into eras or not. -/
theorem days_of_eras (year : Int) :
    146097 * (year / 400) + (365 * (year % 400) + year % 400 / 4 - year % 400 / 100) =
      365 * year + year / 4 - year / 100 + year / 400 := by
  omega

/-- The days of the years up to a year, this one with them; year 0 is a leap
year. -/
theorem daysBeforeYear_march (year : Nat) :
    (365 * year + year / 4 - year / 100 + year / 400 : Int) + 366 =
      (daysBeforeYear year + yearLength year : Nat) := by
  have hyears := daysBeforeYear_eq (year + 1)
  rw [daysBeforeYear] at hyears
  omega

/-- **The number of a date is its count,** for dates of the calendar from year 0
on. -/
theorem Date.toDays_eq_count {d : Date} (hd : d.isValid = true) (hyear : 0 ≤ d.year) :
    d.toDays = d.count := by
  obtain ⟨hlow, hhigh⟩ := Date.month_of_isValid hd
  have hday : 1 ≤ d.day := by
    simp only [Date.isValid, Bool.and_eq_true, decide_eq_true_eq] at hd
    exact hd.1
  have hback : (d.year.toNat : Int) = d.year := Int.toNat_of_nonneg hyear
  have hepoch : daysBeforeYear 1970 = 719528 := by
    have := daysBeforeYear_eq 1970
    omega
  rw [Date.toDays, Date.count, daysBeforeMonth_eq d.year hlow hhigh, hepoch]
  by_cases hmonth : d.month ≤ 2
  · -- The year before, which is left out of the count by ten months.
    have hindex : (d.month + 9) % 12 = d.month + 9 := by omega
    have heras := days_of_eras (d.year - 1)
    have hyears := daysBeforeYear_eq d.year.toNat
    rw [if_pos hmonth, if_pos hmonth, hindex]
    omega
  · have hindex : (d.month + 9) % 12 = d.month - 3 := by omega
    have heras := days_of_eras d.year
    have hmarch := daysBeforeYear_march d.year.toNat
    rw [if_neg hmonth, if_neg hmonth, hindex]
    rw [hback] at hmarch
    have hlength : 365 ≤ yearLength d.year := by
      rw [yearLength]
      split <;> decide
    omega

end EntityGraph.Time
