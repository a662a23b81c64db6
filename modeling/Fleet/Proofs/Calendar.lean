import Fleet.Time.Instant

namespace Fleet.Proofs.Calendar

/-- Where a day lies among the 400 years of an era: the century, the group of four years in it, the
year in that and the day of the year, all counted from zero. Only leap years have a day 365; as
years begin in March, these are the last ones of their groups. -/
structure Lies (dayOfEra century group year day : Int) : Prop where
  sum : dayOfEra = 36524 * century + 1461 * group + 365 * year + day
  centuries : 0 ≤ century ∧ century ≤ 3
  groups : 0 ≤ group ∧ group ≤ 24
  years : 0 ≤ year ∧ year ≤ 3
  days : 0 ≤ day ∧ day ≤ 365
  leap : day = 365 → year = 3 ∧ (group = 24 → century = 3)

variable {dayOfEra century group year day : Int}

theorem exists_lies (h : 0 ≤ dayOfEra) (hlast : dayOfEra < 146097) :
    ∃ century group year day, Lies dayOfEra century group year day := by
  -- The last days of the era, of a century and of a group belong to the years before them.
  obtain ⟨century, hcentury, hrest⟩ : ∃ century : Int, (0 ≤ century ∧ century ≤ 3) ∧
      0 ≤ dayOfEra - 36524 * century ∧ dayOfEra - 36524 * century ≤ 36524 ∧
        (dayOfEra - 36524 * century = 36524 → century = 3) := by
    refine ⟨if dayOfEra = 146096 then 3 else dayOfEra / 36524, ?_⟩
    split <;> omega
  generalize hday : dayOfEra - 36524 * century = dayOfCentury at hrest
  obtain ⟨group, hgroup, hrest'⟩ : ∃ group : Int, (0 ≤ group ∧ group ≤ 24) ∧
      0 ≤ dayOfCentury - 1461 * group ∧ dayOfCentury - 1461 * group ≤ 1460 :=
    ⟨dayOfCentury / 1461, by omega⟩
  generalize hday' : dayOfCentury - 1461 * group = dayOfGroup at hrest'
  obtain ⟨year, hyear, hrest''⟩ : ∃ year : Int, (0 ≤ year ∧ year ≤ 3) ∧
      0 ≤ dayOfGroup - 365 * year ∧ dayOfGroup - 365 * year ≤ 365 ∧
        (dayOfGroup - 365 * year = 365 → year = 3) := by
    refine ⟨if dayOfGroup = 1460 then 3 else dayOfGroup / 365, ?_⟩
    split <;> omega
  refine ⟨century, group, year, dayOfGroup - 365 * year, ?_, hcentury, hgroup, hyear, ?_, ?_⟩
  · omega
  · omega
  · omega

theorem yearOfEra_of_lies (h : Lies dayOfEra century group year day) :
    (dayOfEra - dayOfEra / 1460 + dayOfEra / 36524 - dayOfEra / 146096) / 365 =
      100 * century + 4 * group + year := by
  obtain ⟨hsum, hcentury, hgroup, hyear, hday, hleap⟩ := h
  have hera : dayOfEra / 146096 = if dayOfEra = 146096 then 1 else 0 := by
    split <;> omega
  have hcenturies : dayOfEra / 36524 = if dayOfEra = 146096 then 4 else century := by
    split <;> omega
  have hgroups : dayOfEra / 1460 = 25 * century + group +
      if 1460 ≤ 24 * century + group + 365 * year + day then 1 else 0 := by
    split <;> omega
  rw [hera, hcenturies, hgroups]
  split <;> split <;> omega

theorem daysOfYears_of_lies (h : Lies dayOfEra century group year day) :
    (100 * century + 4 * group + year) * 365 + (100 * century + 4 * group + year) / 4 -
      (100 * century + 4 * group + year) / 100 = dayOfEra - day := by
  obtain ⟨hsum, hcentury, hgroup, hyear, hday, hleap⟩ := h
  omega

/-- Where a day lies in a year that begins in March: its month, counted from zero, and the day of
the month. The last month has a day 29 only in leap years. -/
structure Falls (dayOfYear month day : Int) : Prop where
  sum : dayOfYear = (153 * month + 2) / 5 + day - 1
  months : 0 ≤ month ∧ month ≤ 11
  first : 1 ≤ day
  last : day ≤ if month = 11 then 29 else if month = 1 ∨ month = 3 ∨ month = 6 ∨ month = 8 then 30
    else 31
  leap : month = 11 → day = 29 → dayOfYear = 365

variable {dayOfYear month : Int}

theorem falls_of_days (h : 0 ≤ dayOfYear) (hlast : dayOfYear ≤ 365) :
    Falls dayOfYear ((5 * dayOfYear + 2) / 153)
      (dayOfYear - (153 * ((5 * dayOfYear + 2) / 153) + 2) / 5 + 1) := by
  generalize hmonth : (5 * dayOfYear + 2) / 153 = month
  have hmonths : 0 ≤ month ∧ month ≤ 11 := by omega
  refine ⟨by omega, hmonths, by omega, ?_, by omega⟩
  split
  · omega
  · split <;> omega

/-- The parts that the date of a day is made of. -/
structure Dated (days era century group year dayOfYear month day : Int) : Prop where
  lies : Lies (days + 719468 - era * 146097) century group year dayOfYear
  falls : Falls dayOfYear month day
  date : Date.ofDays days =
    if month < 10 then ⟨100 * century + 4 * group + year + era * 400, (month + 3).toNat, day.toNat⟩
    else ⟨100 * century + 4 * group + year + era * 400 + 1, (month - 9).toNat, day.toNat⟩

theorem exists_dated (days : Int) : ∃ era century group year dayOfYear month day,
    Dated days era century group year dayOfYear month day := by
  have hstart : 0 ≤ (days + 719468) % 146097 := by omega
  have hend : (days + 719468) % 146097 < 146097 := by omega
  obtain ⟨century, group, year, dayOfYear, hlies⟩ := exists_lies hstart hend
  refine ⟨(days + 719468) / 146097, century, group, year, dayOfYear, _, _, ?_,
    falls_of_days hlies.days.1 hlies.days.2, ?_⟩
  · have hday : days + 719468 - (days + 719468) / 146097 * 146097 = (days + 719468) % 146097 := by
      omega
    rw [hday]
    exact hlies
  · have hdayOfYear : (days + 719468) % 146097 - (365 * (100 * century + 4 * group + year) +
        (100 * century + 4 * group + year) / 4 - (100 * century + 4 * group + year) / 100) =
          dayOfYear := by
      have hdays := daysOfYears_of_lies hlies
      omega
    unfold Date.ofDays
    dsimp only
    rw [yearOfEra_of_lies hlies, hdayOfYear]

variable {days era : Int}

theorem toDays_of_dated (h : Dated days era century group year dayOfYear month day) :
    (Date.ofDays days).toDays = days := by
  obtain ⟨hlies, hfalls, hdate⟩ := h
  have hdays := daysOfYears_of_lies hlies
  obtain ⟨-, hcentury, hgroup, hyear, -, -⟩ := hlies
  obtain ⟨hsum, hmonths, hfirst, -, -⟩ := hfalls
  have hera : ∀ years, years = 100 * century + 4 * group + year + era * 400 →
      years / 400 = era ∧ years % 400 = 100 * century + 4 * group + year := by omega
  obtain ⟨hera, hyears⟩ := hera _ rfl
  have hday : (day.toNat : Int) = day := Int.toNat_of_nonneg (by omega)
  rw [hdate]
  split
  · have hmonth : ((month + 3).toNat : Int) - 3 = month := by omega
    have hspring : ¬ (month + 3).toNat ≤ 2 := by omega
    simp only [Date.toDays, if_neg hspring, hera, hyears, hmonth, hday]
    omega
  · have hmonth : ((month - 9).toNat : Int) + 9 = month := by omega
    have hwinter : (month - 9).toNat ≤ 2 := by omega
    simp only [Date.toDays, if_pos hwinter, Int.add_sub_cancel, hera, hyears, hmonth, hday]
    omega

/-- Counting the days up to the date of a day leads back to the day. -/
theorem toDays_ofDays (days : Int) : (Date.ofDays days).toDays = days := by
  obtain ⟨era, century, group, year, dayOfYear, month, day, hdated⟩ := exists_dated days
  exact toDays_of_dated hdated

theorem isLeapYear_of_lies {dayOfEra : Int} (h : Lies dayOfEra century group year 365)
    (era : Int) :
    Date.isLeapYear (100 * century + 4 * group + year + era * 400 + 1) = true := by
  obtain ⟨hsum, hcentury, hgroup, hyear, hday, hleap⟩ := h
  obtain ⟨rfl, hlast⟩ := hleap rfl
  simp only [Date.isLeapYear, Bool.and_eq_true, Bool.or_eq_true, beq_iff_eq, bne_iff_ne]
  omega

theorem daysInMonth_of_ne {month : Nat} (h : month ≠ 2) (year : Int) :
    Date.daysInMonth year month =
      if month = 4 ∨ month = 6 ∨ month = 9 ∨ month = 11 then 30 else 31 := by
  simp [Date.daysInMonth, h, or_assoc]

theorem daysInMonth_le (year : Int) (month : Nat) : Date.daysInMonth year month ≤ 31 := by
  unfold Date.daysInMonth
  split
  · split <;> decide
  · split <;> decide

theorem isValid_iff {year : Int} {month day : Nat} :
    Date.isValid ⟨year, month, day⟩ = true ↔
      1 ≤ month ∧ month ≤ 12 ∧ 1 ≤ day ∧ day ≤ Date.daysInMonth year month := by
  simp [Date.isValid, and_assoc]

theorem isValid_of_dated (h : Dated days era century group year dayOfYear month day) :
    (Date.ofDays days).isValid = true := by
  obtain ⟨hlies, hfalls, hdate⟩ := h
  obtain ⟨hsum, hmonths, hfirst, hlast, hleap⟩ := hfalls
  rw [hdate]
  by_cases hfebruary : month = 11
  · subst hfebruary
    refine isValid_iff.mpr ⟨by decide, by decide, by omega, ?_⟩
    change day.toNat ≤ if Date.isLeapYear _ then 29 else 28
    by_cases hday : day = 29
    · rw [isLeapYear_of_lies (hleap rfl hday ▸ hlies) era, hday]
      decide
    · rw [if_pos rfl] at hlast
      split <;> omega
  · rw [if_neg hfebruary] at hlast
    split
    · refine isValid_iff.mpr ⟨by omega, by omega, by omega, ?_⟩
      rw [daysInMonth_of_ne (by omega)]
      split at hlast <;> split <;> omega
    · refine isValid_iff.mpr ⟨by omega, by omega, by omega, ?_⟩
      rw [daysInMonth_of_ne (by omega)]
      split at hlast <;> split <;> omega

/-- The date of a day is one that the calendar has. -/
theorem isValid_ofDays (days : Int) : (Date.ofDays days).isValid = true := by
  obtain ⟨era, century, group, year, dayOfYear, month, day, hdated⟩ := exists_dated days
  exact isValid_of_dated hdated

theorem firstYear_le_of_dated (h : Dated days era century group year dayOfYear month day)
    (hstart : Date.toDays ⟨Date.firstYear, 1, 1⟩ ≤ days) :
    Date.firstYear ≤ (Date.ofDays days).year := by
  have hcount : Date.toDays ⟨Date.firstYear, 1, 1⟩ = -96465292 := by decide
  obtain ⟨hlies, hfalls, hdate⟩ := h
  obtain ⟨hsum, hcentury, hgroup, hyear, hday, -⟩ := hlies
  obtain ⟨hsum', hmonths, hfirst, hlast, -⟩ := hfalls
  rw [hcount] at hstart
  have hlong : day ≤ 31 := by
    split at hlast
    · omega
    · split at hlast <;> omega
  -- The calendar begins in the winter of a year that is counted from March.
  have hera : -656 ≤ era := by omega
  have hcounted : era = -656 → 256 ≤ 100 * century + 4 * group + year := by
    rintro rfl
    have hcentury' : 2 ≤ century := by omega
    rcases Int.lt_or_eq_of_le hcentury' with hlater | rfl
    · omega
    · have hgroup' : 14 ≤ group := by omega
      omega
  have hbegin : era = -656 → 100 * century + 4 * group + year = 256 → 10 ≤ month := by
    rintro rfl hbegin
    obtain ⟨rfl, rfl, rfl⟩ : century = 2 ∧ group = 14 ∧ year = 0 := by omega
    omega
  rw [hdate, Date.firstYear]
  split
  · change -262143 ≤ 100 * century + 4 * group + year + era * 400
    omega
  · change -262143 ≤ 100 * century + 4 * group + year + era * 400 + 1
    omega

theorem le_lastYear_of_dated (h : Dated days era century group year dayOfYear month day)
    (hend : days ≤ Date.toDays ⟨Date.lastYear, 12, 31⟩) :
    (Date.ofDays days).year ≤ Date.lastYear := by
  have hcount : Date.toDays ⟨Date.lastYear, 12, 31⟩ = 95026236 := by decide
  obtain ⟨hlies, hfalls, hdate⟩ := h
  obtain ⟨hsum, hcentury, hgroup, hyear, hday, -⟩ := hlies
  obtain ⟨hsum', hmonths, hfirst, hlast, -⟩ := hfalls
  rw [hcount] at hend
  have hera : era ≤ 655 := by omega
  have hcounted : era = 655 → 100 * century + 4 * group + year ≤ 142 := by
    rintro rfl
    have hcentury' : century ≤ 1 := by omega
    rcases Int.lt_or_eq_of_le hcentury' with hearlier | rfl
    · omega
    · have hgroup' : group ≤ 10 := by omega
      omega
  -- It ends where a year that is counted from March goes on for two months.
  have hfinal : era = 655 → 100 * century + 4 * group + year = 142 → month < 10 := by
    rintro rfl hfinal
    obtain ⟨rfl, rfl, rfl⟩ : century = 1 ∧ group = 10 ∧ year = 2 := by omega
    omega
  rw [hdate, Date.lastYear]
  split
  · change 100 * century + 4 * group + year + era * 400 ≤ 262142
    omega
  · change 100 * century + 4 * group + year + era * 400 + 1 ≤ 262142
    omega

theorem isInRange_ofDays {days : Int} (hstart : Date.toDays ⟨Date.firstYear, 1, 1⟩ ≤ days)
    (hend : days ≤ Date.toDays ⟨Date.lastYear, 12, 31⟩) :
    (Date.ofDays days).isInRange = true := by
  obtain ⟨era, century, group, year, dayOfYear, month, day, hdated⟩ := exists_dated days
  have hfirst := firstYear_le_of_dated hdated hstart
  have hlast := le_lastYear_of_dated hdated hend
  simp [Date.isInRange, hfirst, hlast]

end Fleet.Proofs.Calendar
