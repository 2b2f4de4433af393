import BeamRun.Calendar

namespace BeamRun.Date

/-- A day of an era of 400 years, which begins in March: 36524 days to a century, 1461 to four years and
365 to a year, except that the fourth year of four has one more, unless it ends a century other than the
last. -/
structure InEra (dayOfEra century four year day : Int) : Prop where
  century_range : 0 ≤ century ∧ century ≤ 3
  four_range : 0 ≤ four ∧ four ≤ 24
  year_range : 0 ≤ year ∧ year ≤ 3
  day_range : 0 ≤ day ∧ (day ≤ 364 ∨ day = 365 ∧ year = 3 ∧ (four ≤ 23 ∨ century = 3))
  sum_eq : dayOfEra = 36524 * century + 1461 * four + 365 * year + day

variable {dayOfEra century four year day : Int}

theorem exists_inEra (positive : 0 ≤ dayOfEra) (bound : dayOfEra < 146097) :
    ∃ century four year day, InEra dayOfEra century four year day := by
  obtain ⟨century, centuryEq⟩ : ∃ c, c = dayOfEra / 36524 - dayOfEra / 146096 := ⟨_, rfl⟩
  obtain ⟨inCentury, inCenturyEq⟩ : ∃ r, r = dayOfEra - 36524 * century := ⟨_, rfl⟩
  have centuryRange : 0 ≤ century ∧ century ≤ 3 := by omega
  have inCenturyRange : 0 ≤ inCentury ∧ (inCentury ≤ 36523 ∨ inCentury = 36524 ∧ century = 3) := by omega
  obtain ⟨four, fourEq⟩ : ∃ q, q = inCentury / 1461 := ⟨_, rfl⟩
  obtain ⟨inFour, inFourEq⟩ : ∃ r, r = inCentury - 1461 * four := ⟨_, rfl⟩
  have fourRange : 0 ≤ four ∧ four ≤ 24 := by omega
  have inFourRange : 0 ≤ inFour ∧ inFour ≤ 1460 := by omega
  obtain ⟨year, yearEq⟩ : ∃ k, k = inFour / 365 - inFour / 1460 := ⟨_, rfl⟩
  have yearRange : 0 ≤ year ∧ year ≤ 3 := by omega
  refine ⟨century, four, year, inFour - 365 * year, centuryRange, fourRange, yearRange, ?_, ?_⟩
  · omega
  · omega

namespace InEra

theorem yearOfEra_eq (h : InEra dayOfEra century four year day) :
    (dayOfEra - dayOfEra / 1460 + dayOfEra / 36524 - dayOfEra / 146096) / 365 =
      100 * century + 4 * four + year := by
  obtain ⟨centuryRange, fourRange, yearRange, dayRange, sum⟩ := h
  have inCentury : 1461 * four + 365 * year + day ≤ 36523 ∨
      1461 * four + 365 * year + day = 36524 ∧ century = 3 := by omega
  have centuries : dayOfEra / 36524 - dayOfEra / 146096 = century := by
    rcases inCentury with within | ⟨last, third⟩
    · have first : dayOfEra / 36524 = century := by omega
      have second : dayOfEra / 146096 = 0 := by omega
      omega
    · omega
  have fours : dayOfEra / 1460 = 25 * century + four + (24 * century + four + 365 * year + day) / 1460 := by
    omega
  omega

theorem start_eq (h : InEra dayOfEra century four year day) :
    365 * (100 * century + 4 * four + year) + (100 * century + 4 * four + year) / 4 -
        (100 * century + 4 * four + year) / 100 = dayOfEra - day := by
  obtain ⟨centuryRange, fourRange, yearRange, dayRange, sum⟩ := h
  omega

end InEra

/-- The day of a year that begins in March, in which five months have 153 days. -/
def ofMarch (marchYear dayOfYear : Int) : Date :=
  let marchMonth := (5 * dayOfYear + 2) / 153
  let month := (marchMonth + 2) % 12 + 1
  ⟨marchYear + (if month ≤ 2 then 1 else 0), month.toNat,
    (dayOfYear - (153 * marchMonth + 2) / 5 + 1).toNat⟩

/-- Every day number is that of a day in a March year; its last day is there only before the end of a
leap year's February. -/
theorem exists_ofMarch (n : Int) :
    ∃ marchYear dayOfYear, ofDayNumber n = ofMarch marchYear dayOfYear ∧
      n + 719468 = 365 * marchYear + marchYear / 4 - marchYear / 100 + marchYear / 400 + dayOfYear ∧
      0 ≤ dayOfYear ∧ (dayOfYear ≤ 364 ∨ dayOfYear = 365 ∧ isLeap (marchYear + 1) = true) := by
  obtain ⟨century, four, year, day, h⟩ :=
    exists_inEra (Int.emod_nonneg (n + 719468) (by decide)) (Int.emod_lt_of_pos _ (by decide))
  obtain ⟨era, eraEq⟩ : ∃ era, era = (n + 719468) / 146097 := ⟨_, rfl⟩
  refine ⟨era * 400 + (100 * century + 4 * four + year), day, ?_, ?_, h.day_range.1, ?_⟩
  · have dayOfYear : (n + 719468) % 146097 - (365 * (100 * century + 4 * four + year) +
        (100 * century + 4 * four + year) / 4 - (100 * century + 4 * four + year) / 100) = day := by
      rw [h.start_eq]
      omega
    simp only [ofDayNumber, h.yearOfEra_eq, dayOfYear, ← eraEq, ofMarch]
  · obtain ⟨centuryRange, fourRange, yearRange, dayRange, sum⟩ := h
    omega
  · obtain ⟨centuryRange, fourRange, yearRange, dayRange, sum⟩ := h
    rcases dayRange.2 with within | ⟨last, fourth, ends⟩
    · exact .inl within
    · refine .inr ⟨last, ?_⟩
      simp only [isLeap, Bool.and_eq_true, Bool.or_eq_true, bne_iff_ne, decide_eq_true_eq]
      omega

section March

variable {marchYear dayOfYear : Int}

theorem ofMarch_ranges (marchYear dayOfYear : Int) :
    (1 ≤ (ofMarch marchYear dayOfYear).month ∧ (ofMarch marchYear dayOfYear).month ≤ 12) ∧
      1 ≤ (ofMarch marchYear dayOfYear).day ∧ (ofMarch marchYear dayOfYear).day ≤ 31 := by
  simp only [ofMarch]
  omega

theorem marchYear_ofMarch (marchYear dayOfYear : Int) :
    (ofMarch marchYear dayOfYear).marchYear = marchYear := by
  have month : ((ofMarch marchYear dayOfYear).month : Int) = ((5 * dayOfYear + 2) / 153 + 2) % 12 + 1 := by
    simp only [ofMarch]
    omega
  have year : (ofMarch marchYear dayOfYear).year =
      marchYear + (if ((ofMarch marchYear dayOfYear).month : Int) ≤ 2 then 1 else 0) := by
    rw [month]
    rfl
  rw [Date.marchYear, year]
  split <;> split <;> omega

theorem dayNumber_ofMarch (positive : 0 ≤ dayOfYear) (bound : dayOfYear ≤ 365) :
    (ofMarch marchYear dayOfYear).dayNumber =
      365 * marchYear + marchYear / 4 - marchYear / 100 + marchYear / 400 + dayOfYear - 719468 := by
  have month : (((ofMarch marchYear dayOfYear).month : Int) + 9) % 12 = (5 * dayOfYear + 2) / 153 := by
    simp only [ofMarch]
    omega
  have day : ((ofMarch marchYear dayOfYear).day : Int) =
      dayOfYear - (153 * ((5 * dayOfYear + 2) / 153) + 2) / 5 + 1 := by
    simp only [ofMarch]
    omega
  rw [dayNumber, marchYear_ofMarch, month, day]
  omega

theorem day_le_daysInMonth (positive : 0 ≤ dayOfYear)
    (bound : dayOfYear ≤ 364 ∨ dayOfYear = 365 ∧ isLeap (marchYear + 1) = true) :
    (ofMarch marchYear dayOfYear).day ≤
      daysInMonth (ofMarch marchYear dayOfYear).year (ofMarch marchYear dayOfYear).month := by
  obtain ⟨m, monthEq⟩ : ∃ m, m = (5 * dayOfYear + 2) / 153 := ⟨_, rfl⟩
  simp only [ofMarch, ← monthEq]
  by_cases february : m = 11
  · subst february
    rcases bound with within | ⟨last, leap⟩
    · simp [daysInMonth]
      split <;> omega
    · simp [daysInMonth, leap]
      omega
  · have other : m = 0 ∨ m = 1 ∨ m = 2 ∨ m = 3 ∨ m = 4 ∨ m = 5 ∨ m = 6 ∨ m = 7 ∨ m = 8 ∨ m = 9 ∨
        m = 10 := by omega
    rcases other with rfl | rfl | rfl | rfl | rfl | rfl | rfl | rfl | rfl | rfl | rfl <;>
      simp [daysInMonth] <;> omega

end March

/-- A number leads to a day that its month has. -/
theorem ofDayNumber_ranges (n : Int) :
    (1 ≤ (ofDayNumber n).month ∧ (ofDayNumber n).month ≤ 12) ∧
      1 ≤ (ofDayNumber n).day ∧ (ofDayNumber n).day ≤ 31 ∧
        (ofDayNumber n).day ≤ daysInMonth (ofDayNumber n).year (ofDayNumber n).month := by
  obtain ⟨marchYear, dayOfYear, same, -, positive, bound⟩ := exists_ofMarch n
  have ranges := ofMarch_ranges marchYear dayOfYear
  rw [same]
  exact ⟨ranges.1, ranges.2.1, ranges.2.2, day_le_daysInMonth positive bound⟩

theorem dayNumber_ofDayNumber (n : Int) : (ofDayNumber n).dayNumber = n := by
  obtain ⟨marchYear, dayOfYear, same, sum, positive, bound⟩ := exists_ofMarch n
  rw [same, dayNumber_ofMarch positive (by omega)]
  omega

end BeamRun.Date
