import Composer.Time.Instant
set_option autoImplicit false

/-!
# Days and dates

The calendar repeats after an era of 400 years. Within an era, the year of a day is found by a
division that would be exact if all years were equally long: how much it is off is checked for the
first and the last day of each year, and days in between cannot be off by more. Years begin in
March here, so that the leap day is the last of its year.
-/

namespace Composer.Instant

/-! ## The year of a day -/

/-- The days of an era before its year `y`. -/
def daysBefore (y : Nat) : Nat := 365 * y + y / 4 - y / 100 + y / 400

/-- A day of an era without the leap days before it: 365 to each year, about. -/
def withoutLeapDays (day : Nat) : Nat := day - day / 1460 + day / 36524 - day / 146096

theorem withoutLeapDays_mono {a b : Nat} (h : a ≤ b) : withoutLeapDays a ≤ withoutLeapDays b := by
  induction h with
  | refl => exact Nat.le_refl _
  | @step b _ ih =>
    have hstep : withoutLeapDays b ≤ withoutLeapDays (b + 1) := by
      unfold withoutLeapDays
      omega
    exact Nat.le_trans ih hstep

/-- The first day of a year is counted to it, and so is the last one. -/
theorem withoutLeapDays_bounds : ∀ y < 400,
    365 * y ≤ withoutLeapDays (daysBefore y) ∧
    withoutLeapDays (daysBefore (y + 1) - 1) < 365 * (y + 1) := by
  decide +kernel

theorem daysBefore_mono {a b : Nat} (h : a ≤ b) : daysBefore a ≤ daysBefore b := by
  induction h with
  | refl => exact Nat.le_refl _
  | @step b _ ih =>
    have hstep : daysBefore b ≤ daysBefore (b + 1) := by
      unfold daysBefore
      omega
    exact Nat.le_trans ih hstep

/-- The year of a day of an era. -/
def yearOf (day : Nat) : Nat := withoutLeapDays day / 365

theorem yearOf_spec {day : Nat} (h : day < 146097) :
    yearOf day < 400 ∧ daysBefore (yearOf day) ≤ day ∧ day < daysBefore (yearOf day + 1) := by
  have hera : withoutLeapDays 146096 < 365 * 400 := by decide
  have hle : withoutLeapDays day ≤ withoutLeapDays 146096 := withoutLeapDays_mono (by omega)
  have hyear : yearOf day < 400 := by
    unfold yearOf
    omega
  have hdiv : 365 * yearOf day ≤ withoutLeapDays day ∧
      withoutLeapDays day < 365 * (yearOf day + 1) := by
    unfold yearOf
    omega
  refine ⟨hyear, ?_, ?_⟩
  · cases hzero : yearOf day with
    | zero => exact Nat.zero_le _
    | succ y =>
      rw [hzero] at hdiv hyear
      have hlast := (withoutLeapDays_bounds y (by omega)).2
      refine Nat.le_of_not_lt fun hlt => ?_
      have hbefore : withoutLeapDays day ≤ withoutLeapDays (daysBefore (y + 1) - 1) :=
        withoutLeapDays_mono (by omega)
      omega
  · by_cases hend : yearOf day + 1 = 400
    · rw [hend]
      exact h
    · have hfirst := (withoutLeapDays_bounds (yearOf day + 1) (by omega)).1
      refine Nat.lt_of_not_le fun hle' => ?_
      have hbehind : withoutLeapDays (daysBefore (yearOf day + 1)) ≤ withoutLeapDays day :=
        withoutLeapDays_mono hle'
      omega

/-! ## Dates -/

/-- A day by its era, its year in the era and its place in the year. -/
structure Date where
  era : Int
  year : Nat
  day : Nat

/-- The date is one of the calendar: a year has 365 days, or 366 if it ends with a leap day. -/
structure Date.IsValid (d : Date) : Prop where
  year_lt : d.year < 400
  day_lt : daysBefore d.year + d.day < daysBefore (d.year + 1)

/-- The days from the start of 1970 to a date. -/
def Date.days (d : Date) : Int := d.era * 146097 + (daysBefore d.year + d.day : Nat) - 719468

/-- The month of a day of a year that begins in March, counted from March. -/
def monthFromMarch (day : Nat) : Nat := (5 * day + 2) / 153

/-- The month of a day of such a year, counted from January. -/
def monthOf (day : Nat) : Nat :=
  if monthFromMarch day < 10 then monthFromMarch day + 3 else monthFromMarch day - 9

/-- The day of the month of a day of such a year. -/
def dayOfMonth (day : Nat) : Nat := day - (153 * monthFromMarch day + 2) / 5 + 1

/-- The year of a date as it is written. -/
def Date.civilYear (d : Date) : Int :=
  if monthOf d.day ≤ 2 then (d.year : Int) + d.era * 400 + 1 else (d.year : Int) + d.era * 400

/-- Every day is a date of the calendar. -/
theorem exists_date (days : Int) :
    ∃ d : Date, d.IsValid ∧ d.days = days ∧
      dateOf days = (d.civilYear, monthOf d.day, dayOfMonth d.day) := by
  have hera : (days + 719468).fdiv 146097 = (days + 719468) / 146097 :=
    Int.fdiv_eq_ediv_of_nonneg _ (by decide)
  obtain ⟨day, hday⟩ : ∃ day : Nat, days + 719468 - (days + 719468) / 146097 * 146097 = day :=
    ⟨_, (Int.toNat_of_nonneg (by omega)).symm⟩
  have hlt : day < 146097 := by omega
  obtain ⟨hyear, hfirst, hlast⟩ := yearOf_spec hlt
  refine ⟨⟨(days + 719468) / 146097, yearOf day, day - daysBefore (yearOf day)⟩,
    ⟨hyear, ?_⟩, ?_, ?_⟩
  · dsimp only
    omega
  · simp only [Date.days]
    omega
  · have hbefore : 365 * yearOf day + yearOf day / 4 - yearOf day / 100 =
        daysBefore (yearOf day) := by
      unfold daysBefore
      omega
    rw [dateOf, hera, hday, Int.toNat_natCast]
    change (_, _, _) = (_, _, _)
    rw [← hbefore]
    rfl

/-! ## Months -/

/-- A day of a year is found again by its month and its day of the month. The months have their
lengths, if the leap day is counted to February. -/
theorem month_bounds : ∀ day < 366,
    (monthOf day + 9) % 12 = monthFromMarch day ∧
    (153 * monthFromMarch day + 2) / 5 + dayOfMonth day - 1 = day ∧
    (1 ≤ monthOf day ∧ monthOf day ≤ 12) ∧ (1 ≤ dayOfMonth day ∧ dayOfMonth day ≤ 31) ∧
    (monthOf day ≤ 2 ↔ 306 ≤ day) := by
  decide +kernel

theorem dayOfMonth_le_length : ∀ day < 366,
    dayOfMonth day ≤ (if monthOf day == 2 then 29 else daysInMonth 1 (monthOf day)) ∧
    (monthOf day = 2 → dayOfMonth day = 29 → day = 365) := by
  decide +kernel

namespace Date.IsValid

variable {d d' : Date}

theorem day_le (h : d.IsValid) : d.day < 366 := by
  have hyear := h.year_lt
  have hday := h.day_lt
  unfold daysBefore at hday
  omega

/-- The days to the written form of a date are those to the date. -/
theorem daysOf_eq (h : d.IsValid) :
    daysOf d.civilYear (monthOf d.day) (dayOfMonth d.day) = d.days := by
  have hyear := h.year_lt
  obtain ⟨hmonth, hday, -⟩ := month_bounds d.day h.day_le
  have hcivil : (if monthOf d.day ≤ 2 then d.civilYear - 1 else d.civilYear) =
      (d.year : Int) + d.era * 400 := by
    unfold Date.civilYear
    split <;> omega
  have hera : ((d.year : Int) + d.era * 400).fdiv 400 = d.era := by
    rw [Int.fdiv_eq_ediv_of_nonneg _ (by decide)]
    omega
  have hofEra : ((d.year : Int) + d.era * 400 - d.era * 400).toNat = d.year := by
    rw [Int.add_sub_cancel, Int.toNat_natCast]
  have hbefore : d.year * 365 + d.year / 4 - d.year / 100 = daysBefore d.year := by
    unfold daysBefore
    omega
  simp only [daysOf, hcivil, hera, hofEra, hmonth, hday]
  rw [Date.days, hbefore]

/-- Only a leap year has a 366th day. -/
theorem isLeapYear_of_day (h : d.IsValid) (hday : d.day = 365) :
    isLeapYear ((d.year : Int) + d.era * 400 + 1) = true := by
  have hlast := h.day_lt
  have hyear := h.year_lt
  rw [hday] at hlast
  unfold daysBefore at hlast
  simp only [isLeapYear, Bool.and_eq_true, Bool.or_eq_true, beq_iff_eq, bne_iff_ne]
  omega

/-- The day of the month is one of the month's days in that year. -/
theorem dayOfMonth_le (h : d.IsValid) :
    dayOfMonth d.day ≤ daysInMonth d.civilYear (monthOf d.day) := by
  obtain ⟨hlength, hleap⟩ := dayOfMonth_le_length d.day h.day_le
  by_cases hfebruary : monthOf d.day = 2
  · have hcivil : d.civilYear = (d.year : Int) + d.era * 400 + 1 := by
      rw [Date.civilYear, if_pos (by omega)]
    rw [hfebruary] at hlength ⊢
    change dayOfMonth d.day ≤ if isLeapYear d.civilYear then 29 else 28
    change dayOfMonth d.day ≤ 29 at hlength
    by_cases hlast : dayOfMonth d.day = 29
    · rw [hcivil, h.isLeapYear_of_day (hleap hfebruary hlast), if_pos rfl]
      exact hlength
    · split <;> omega
  · have hother : (monthOf d.day == 2) = false := by simpa using hfebruary
    rw [hother] at hlength
    rw [daysInMonth, hother]
    rw [daysInMonth, hother] at hlength
    exact hlength

/-! ## The order of dates -/

/-- A date in an earlier year is earlier. -/
theorem days_lt (h : d.IsValid) (h' : d'.IsValid)
    (hlt : (d.year : Int) + d.era * 400 < (d'.year : Int) + d'.era * 400) : d.days < d'.days := by
  have hyear := h.year_lt
  have hyear' := h'.year_lt
  have hday := h.day_lt
  have hera : daysBefore 400 = 146097 := by decide
  unfold Date.days
  by_cases heras : d.era < d'.era
  · have hend := daysBefore_mono (show d.year + 1 ≤ 400 by omega)
    omega
  · have hbefore := daysBefore_mono (show d.year + 1 ≤ d'.year by omega)
    omega

end Date.IsValid

/-- The first day of January. -/
def firstDay (year : Int) : Date where
  era := (year - 1) / 400
  year := ((year - 1) % 400).toNat
  day := 306

theorem firstDay_year (year : Int) :
    ((firstDay year).year : Int) + (firstDay year).era * 400 = year - 1 := by
  unfold firstDay
  dsimp only
  omega

theorem isValid_firstDay (year : Int) : (firstDay year).IsValid := by
  have hyear : (firstDay year).year < 400 := by
    unfold firstDay
    dsimp only
    omega
  refine ⟨hyear, ?_⟩
  have hday : (firstDay year).day = 306 := rfl
  rw [hday]
  unfold daysBefore
  omega

theorem days_firstDay (year : Int) : (firstDay year).days = daysOf year 1 1 := by
  have hmonth : monthOf 306 = 1 := by decide
  have hday : dayOfMonth 306 = 1 := by decide
  have hcivil : (firstDay year).civilYear = year := by
    have hyear := firstDay_year year
    have hjanuary : monthOf (firstDay year).day ≤ 2 := by
      change monthOf 306 ≤ 2
      omega
    rw [Date.civilYear, if_pos hjanuary, hyear]
    omega
  have hdays := (isValid_firstDay year).daysOf_eq
  rw [hcivil] at hdays
  change daysOf year (monthOf 306) (dayOfMonth 306) = _ at hdays
  rw [hmonth, hday] at hdays
  exact hdays.symm

/-- A date lies in a year or a later one if it does not lie before its first day. -/
theorem le_civilYear_iff {d : Date} (h : d.IsValid) (year : Int) :
    year ≤ d.civilYear ↔ daysOf year 1 1 ≤ d.days := by
  rw [← days_firstDay]
  have hfirst := isValid_firstDay year
  have hyear := firstDay_year year
  have hday : (firstDay year).day = 306 := rfl
  obtain ⟨-, -, -, -, hmonth⟩ := month_bounds d.day h.day_le
  have hcivil : d.civilYear =
      if 306 ≤ d.day then (d.year : Int) + d.era * 400 + 1 else (d.year : Int) + d.era * 400 := by
    unfold Date.civilYear
    simp only [hmonth]
  rcases Int.lt_trichotomy ((d.year : Int) + d.era * 400) (year - 1) with hlt | heq | hgt
  · have hless := h.days_lt hfirst (by omega)
    rw [hcivil]
    split <;> omega
  · have hera : d.era = (firstDay year).era ∧ d.year = (firstDay year).year := by
      have hone := h.year_lt
      have htwo := hfirst.year_lt
      omega
    rw [hcivil, Date.days, Date.days, hday, ← hera.1, ← hera.2]
    split <;> omega
  · have hless := hfirst.days_lt h (by omega)
    rw [hcivil]
    split <;> omega

end Composer.Instant
