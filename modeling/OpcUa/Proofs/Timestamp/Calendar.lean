import OpcUa.Timestamp.Basic

/-!
Days and dates: every day has a valid date, and the date leads back to the day. The calendar
repeats itself after 400 years, which are four centuries of 25 spans of four years; what is left
over in a span, a century or the whole is settled once, for one day among the 146097.
-/

namespace OpcUa.Date

/-- A day of the 400 years: so many whole centuries, spans of four years, years and days before it.
The leap day is the last of the fourth year of its span, and only the last century has one in its
last span. -/
structure Placed (d century span year day : Int) : Prop where
  sum : d = 36524 * century + 1461 * span + 365 * year + day
  century_nonneg : 0 ≤ century
  century_le : century ≤ 3
  span_nonneg : 0 ≤ span
  span_le : span ≤ 24
  year_nonneg : 0 ≤ year
  year_le : year ≤ 3
  day_nonneg : 0 ≤ day
  day_le : day ≤ 364 ∨ day = 365 ∧ year = 3 ∧ (span < 24 ∨ century = 3)

theorem exists_placed {d : Int} (least : 0 ≤ d) (most : d < 146097) :
    ∃ century span year day, Placed d century span year day := by
  obtain ⟨century, rest, rfl, c_nonneg, c_le, rest_nonneg, rest_le⟩ : ∃ century rest,
      d = 36524 * century + rest ∧ 0 ≤ century ∧ century ≤ 3 ∧ 0 ≤ rest ∧
        (rest ≤ 36523 ∨ rest = 36524 ∧ century = 3) :=
    ⟨min (d / 36524) 3, d - 36524 * min (d / 36524) 3, by omega⟩
  obtain ⟨span, rest, rfl, s_nonneg, s_le, rest_nonneg, rest_le, leap⟩ : ∃ span part,
      rest = 1461 * span + part ∧ 0 ≤ span ∧ span ≤ 24 ∧ 0 ≤ part ∧ part ≤ 1460 ∧
        (part = 1460 → span < 24 ∨ century = 3) :=
    ⟨rest / 1461, rest % 1461, by omega⟩
  obtain ⟨year, day, rfl, y_nonneg, y_le, day_nonneg, day_le⟩ : ∃ year day,
      rest = 365 * year + day ∧ 0 ≤ year ∧ year ≤ 3 ∧ 0 ≤ day ∧
        (day ≤ 364 ∨ day = 365 ∧ year = 3) :=
    ⟨min (rest / 365) 3, rest - 365 * min (rest / 365) 3, by omega⟩
  exact ⟨century, span, year, day, by omega, c_nonneg, c_le, s_nonneg, s_le, y_nonneg, y_le,
    day_nonneg, by omega⟩

variable {d century span year day : Int}

theorem yearOfEra_eq (placed : Placed d century span year day) :
    (d - d / 1460 + d / 36524 - d / 146096) / 365 = 100 * century + 4 * span + year := by
  obtain ⟨rfl, c_nonneg, c_le, s_nonneg, s_le, y_nonneg, y_le, day_nonneg, day_le⟩ := placed
  by_cases last : 36524 * century + 1461 * span + 365 * year + day = 146096
  · rw [last]
    omega
  have centuries : (36524 * century + 1461 * span + 365 * year + day) / 36524 = century := by omega
  have whole : (36524 * century + 1461 * span + 365 * year + day) / 146096 = 0 := by omega
  -- Dividing by 1460 counts the leap days, and one day more at the end of a late span.
  have spans : (36524 * century + 1461 * span + 365 * year + day) / 1460 =
      25 * century + span + (24 * century + span + 365 * year + day) / 1460 := by omega
  have inYear : 0 ≤ day - (24 * century + span + 365 * year + day) / 1460 ∧
      day - (24 * century + span + 365 * year + day) / 1460 ≤ 364 := by omega
  rw [centuries, whole, spans]
  omega

/-- The days of the whole years before are all but those of the day's own year. -/
theorem dayOfYear_eq (placed : Placed d century span year day) :
    d - (365 * (100 * century + 4 * span + year) + (100 * century + 4 * span + year) / 4 -
      (100 * century + 4 * span + year) / 100) = day := by
  obtain ⟨rfl, c_nonneg, c_le, s_nonneg, s_le, y_nonneg, y_le, -, -⟩ := placed
  have spans : (100 * century + 4 * span + year) / 4 = 25 * century + span := by omega
  have centuries : (100 * century + 4 * span + year) / 100 = century := by omega
  rw [spans, centuries]
  omega

/-- The date of a day of a year that begins in March; days count from zero. -/
def ofYearDay (year day : Int) : Date :=
  let monthFromMarch := (5 * day + 2) / 153
  let month := if monthFromMarch < 10 then monthFromMarch + 3 else monthFromMarch - 9
  ⟨if month ≤ 2 then year + 1 else year, month.toNat,
    (day - (153 * monthFromMarch + 2) / 5 + 1).toNat⟩

theorem ofDays_eq {n era : Int} (placed : Placed d century span year day)
    (split : n + 719468 = era * 146097 + d) :
    ofDays n = ofYearDay (100 * century + 4 * span + year + era * 400) day := by
  have bounds : 0 ≤ d ∧ d < 146097 := by
    obtain ⟨rfl, c_nonneg, c_le, s_nonneg, s_le, y_nonneg, y_le, day_nonneg, day_le⟩ := placed
    omega
  have eras : (n + 719468) / 146097 = era := by omega
  have rest : (n + 719468) % 146097 = d := by omega
  simp only [ofDays, eras, rest, yearOfEra_eq placed, dayOfYear_eq placed]
  rfl

/-- The months from March on, and the days in them. -/
theorem monthFromMarch_bounds (day_nonneg : 0 ≤ day) (day_le : day ≤ 365) :
    0 ≤ (5 * day + 2) / 153 ∧ (5 * day + 2) / 153 ≤ 11 ∧
      0 ≤ day - (153 * ((5 * day + 2) / 153) + 2) / 5 := by
  omega

theorem toDays_ofYearDay (year : Int) (day_nonneg : 0 ≤ day) (day_le : day ≤ 365) :
    (ofYearDay year day).toDays =
      year / 400 * 146097 +
        (year % 400 * 365 + year % 400 / 4 - year % 400 / 100 + day) - 719468 := by
  obtain ⟨m_nonneg, m_le, first⟩ := monthFromMarch_bounds day_nonneg day_le
  simp only [ofYearDay]
  generalize (5 * day + 2) / 153 = m at m_nonneg m_le first ⊢
  by_cases early : m < 10
  · have late : ¬m + 3 ≤ 2 := by omega
    have late' : ¬(m + 3).toNat ≤ 2 := by omega
    simp only [toDays, if_pos early, if_neg late, if_neg late']
    have month : ((m + 3).toNat : Int) - 3 = m := by omega
    rw [month]
    omega
  · have late : m - 9 ≤ 2 := by omega
    have late' : (m - 9).toNat ≤ 2 := by omega
    simp only [toDays, if_neg early, if_pos late, if_pos late']
    have month : ((m - 9).toNat : Int) + 9 = m := by omega
    rw [month]
    omega

/-- A year that begins in March has the days up to the end of the February after it. -/
theorem isValid_ofYearDay (year : Int) (day_nonneg : 0 ≤ day)
    (day_le : day ≤ 364 ∨ day = 365 ∧ isLeapYear (year + 1)) :
    (ofYearDay year day).isValid := by
  have le : day ≤ 365 := by omega
  obtain ⟨m_nonneg, m_le, first⟩ := monthFromMarch_bounds day_nonneg le
  have last : 5 * day + 2 < 153 * ((5 * day + 2) / 153) + 153 := by omega
  simp only [ofYearDay]
  generalize (5 * day + 2) / 153 = m at m_nonneg m_le first last ⊢
  -- Only February depends on the year.
  obtain rfl | other : m = 11 ∨ m ≤ 10 := by omega
  · rcases day_le with short | ⟨rfl, leap⟩
    · simp [isValid, daysInMonth]
      split <;> omega
    · simp [isValid, daysInMonth, leap]
  · obtain rfl | rfl | rfl | rfl | rfl | rfl | rfl | rfl | rfl | rfl | rfl : m = 0 ∨ m = 1 ∨ m = 2 ∨
      m = 3 ∨ m = 4 ∨ m = 5 ∨ m = 6 ∨ m = 7 ∨ m = 8 ∨ m = 9 ∨ m = 10 := by omega
    all_goals
      simp [isValid, daysInMonth]
      omega

theorem isLeapYear_of_last {era : Int} (placed : Placed d century span year 365) :
    isLeapYear (100 * century + 4 * span + year + era * 400 + 1) := by
  obtain ⟨-, c_nonneg, c_le, s_nonneg, s_le, -, -, -, day_le⟩ := placed
  simp [isLeapYear]
  omega

theorem placed_day (n : Int) : ∃ era d century span year day, Placed d century span year day ∧
    n + 719468 = era * 146097 + d := by
  obtain ⟨century, span, year, day, placed⟩ :=
    exists_placed (d := (n + 719468) % 146097) (by omega) (by omega)
  exact ⟨(n + 719468) / 146097, _, century, span, year, day, placed, by omega⟩

theorem Placed.day_le_365 (placed : Placed d century span year day) : day ≤ 365 := by
  have := placed.day_le
  omega

/-- The date of a day leads back to the day. -/
theorem toDays_ofDays (n : Int) : (ofDays n).toDays = n := by
  obtain ⟨era, d, century, span, year, day, placed, split⟩ := placed_day n
  have days := dayOfYear_eq placed
  have years : 0 ≤ 100 * century + 4 * span + year ∧ 100 * century + 4 * span + year < 400 := by
    obtain ⟨-, c_nonneg, c_le, s_nonneg, s_le, y_nonneg, y_le, -, -⟩ := placed
    omega
  rw [ofDays_eq placed split, toDays_ofYearDay _ placed.day_nonneg placed.day_le_365]
  generalize 100 * century + 4 * span + year = y at days years ⊢
  have eras : (y + era * 400) / 400 = era := by omega
  have rest : (y + era * 400) % 400 = y := by omega
  rw [eras, rest]
  omega

theorem isValid_ofDays (n : Int) : (ofDays n).isValid := by
  obtain ⟨era, d, century, span, year, day, placed, split⟩ := placed_day n
  rw [ofDays_eq placed split]
  refine isValid_ofYearDay _ placed.day_nonneg ?_
  rcases placed.day_le with short | ⟨rfl, -⟩
  · exact .inl short
  · exact .inr ⟨rfl, isLeapYear_of_last placed⟩

end OpcUa.Date
