import StreamingChat.Calendar.Date

/-!
# The days of the calendar

Dates are counted by a formula and found again from their count by another one.  What they are meant
to compute is said here by the calendar alone: there is a first day, every proper date has a day
after it, and a year has its months with their days.  The count of a date is one less than that of
the day after it, and each count has a date, which is proper.

Years are taken to begin in March, so that four hundred of them, an era, are four centuries that
differ by a day at the end only, each of them twenty-five cycles of four years, and each cycle four
years that differ by their last day only.
-/

namespace StreamingChat.Calendar

theorem isLeapYear_iff (year : Int) :
    isLeapYear year = true ↔ year % 4 = 0 ∧ (year % 100 ≠ 0 ∨ year % 400 = 0) := by
  simp [isLeapYear]

theorem one_le_daysInMonth (year : Int) (month : Nat) : 1 ≤ daysInMonth year month := by
  unfold daysInMonth
  repeat' split
  all_goals decide

theorem daysInMonth_le (year : Int) (month : Nat) : daysInMonth year month ≤ 31 := by
  unfold daysInMonth
  repeat' split
  all_goals decide

namespace Date

/-- A day that there is, in any year. -/
structure IsProper (d : Date) : Prop where
  month : 1 ≤ d.month ∧ d.month ≤ 12
  day : 1 ≤ d.day ∧ d.day ≤ daysInMonth d.year d.month

theorem isProper_mk {year : Int} {month day : Nat} (month_le : 1 ≤ month ∧ month ≤ 12)
    (day_le : 1 ≤ day ∧ day ≤ daysInMonth year month) : IsProper ⟨year, month, day⟩ :=
  ⟨month_le, day_le⟩

/-- The day after a date: in the month, or the first of the next month, or of the next year. -/
def next (d : Date) : Date :=
  if d.day < daysInMonth d.year d.month then { d with day := d.day + 1 }
  else if d.month < 12 then ⟨d.year, d.month + 1, 1⟩
  else ⟨d.year + 1, 1, 1⟩

theorem IsProper.next {d : Date} (proper : d.IsProper) : d.next.IsProper := by
  obtain ⟨month, day⟩ := proper
  unfold Date.next
  split
  · rename_i inside
    exact ⟨month, Nat.le_succ_of_le day.1, inside⟩
  · split
    · rename_i before
      exact ⟨⟨Nat.le_succ_of_le month.1, before⟩, Nat.le_refl 1, one_le_daysInMonth _ _⟩
    · exact isProper_mk (by decide) ⟨Nat.le_refl 1, one_le_daysInMonth _ _⟩

/-! ## From a date to its count -/

/-- The year that a month belongs to, if years begin in March. -/
def marchYear (year : Int) (month : Nat) : Int :=
  if month ≤ 2 then year - 1 else year

/-- The count of the first of March. -/
def daysBeforeYear (year : Int) : Int :=
  year / 400 * 146097 + (year % 400 * 365 + year % 400 / 4 - year % 400 / 100) - 719468

/-- The days from the first of March to the first of a month. -/
def daysBeforeMonth (month : Nat) : Int :=
  (153 * ((month + 9 : Int) % 12) + 2) / 5

theorem toDays_eq (year : Int) (month day : Nat) :
    toDays ⟨year, month, day⟩ =
      daysBeforeYear (marchYear year month) + daysBeforeMonth month + day - 1 := by
  simp only [toDays, daysBeforeYear, daysBeforeMonth, marchYear]
  omega

/-- A year that ends with February has the leap day of the calendar year it ends in. -/
theorem daysBeforeYear_succ (year : Int) :
    daysBeforeYear (year + 1) = daysBeforeYear year + 337 + daysInMonth (year + 1) 2 := by
  have leap := isLeapYear_iff (year + 1)
  unfold daysBeforeYear
  cases long : isLeapYear (year + 1) with
  | true =>
      obtain ⟨fourth, century⟩ := leap.mp long
      have length : daysInMonth (year + 1) 2 = 29 := by simp [daysInMonth, long]
      rw [length]
      omega
  | false =>
      have short := mt leap.mpr (Bool.eq_false_iff.mp long)
      have length : daysInMonth (year + 1) 2 = 28 := by simp [daysInMonth, long]
      rw [length]
      omega

/-- No other month depends on the year. -/
theorem daysInMonth_of_ne {month : Nat} (other : month ≠ 2) (year : Int) :
    daysInMonth year month = daysInMonth 0 month := by
  rw [daysInMonth, daysInMonth, if_neg other, if_neg other]

theorem daysBeforeMonth_succ {month : Nat} (inside : month < 12) (other : month ≠ 2) (year : Int) :
    daysBeforeMonth (month + 1) = daysBeforeMonth month + daysInMonth year month := by
  have table : ∀ m < 12, m ≠ 2 → daysBeforeMonth (m + 1) = daysBeforeMonth m + daysInMonth 0 m := by
    decide
  rw [daysInMonth_of_ne other]
  exact table month inside other

/-- The first of the next month comes after the last day of a month. -/
theorem toDays_month_succ (year : Int) {month : Nat} (inside : month < 12) :
    toDays ⟨year, month + 1, 1⟩ = toDays ⟨year, month, daysInMonth year month⟩ + 1 := by
  rw [toDays_eq, toDays_eq]
  by_cases february : month = 2
  · subst february
    have year_after := daysBeforeYear_succ (year - 1)
    rw [Int.sub_add_cancel] at year_after
    have march : marchYear year (2 + 1) = year := rfl
    have before : marchYear year 2 = year - 1 := rfl
    have months : daysBeforeMonth (2 + 1) = 0 ∧ daysBeforeMonth 2 = 337 := by decide
    rw [march, before, months.1, months.2]
    omega
  · have month_after := daysBeforeMonth_succ inside february year
    have same : marchYear year (month + 1) = marchYear year month := by
      unfold marchYear
      split
      · rw [if_pos (by omega)]
      · rw [if_neg (by omega)]
    rw [same, month_after]
    omega

/-- The first of January comes after the last of December. -/
theorem toDays_year_succ (year : Int) :
    toDays ⟨year + 1, 1, 1⟩ = toDays ⟨year, 12, daysInMonth year 12⟩ + 1 := by
  have months : daysBeforeMonth 1 = 306 ∧ daysBeforeMonth 12 = 275 := by decide
  have january : marchYear (year + 1) 1 = year := Int.add_sub_cancel year 1
  have december : marchYear year 12 = year := rfl
  have length : daysInMonth year 12 = 31 := rfl
  rw [toDays_eq, toDays_eq, january, december, months.1, months.2, length]
  omega

/-- The day after is counted one more. -/
theorem toDays_next {d : Date} (proper : d.IsProper) : d.next.toDays = d.toDays + 1 := by
  obtain ⟨year, month, day⟩ := d
  obtain ⟨⟨first, last⟩, -, within⟩ := proper
  simp only at first last within
  by_cases inside : day < daysInMonth year month
  · simp only [next, inside, if_true]
    rw [toDays_eq, toDays_eq]
    omega
  · obtain rfl : day = daysInMonth year month := by omega
    by_cases before : month < 12
    · simp only [next, inside, before, if_true, if_false]
      exact toDays_month_succ year before
    · obtain rfl : month = 12 := by omega
      simp only [next, inside, before, if_false]
      exact toDays_year_succ year

/-! ## From a count to its date -/

/-- Where a day lies in its era.  All are counted from zero on. -/
structure Place where
  century : Int
  cycle : Int
  year : Int
  day : Int

namespace Place

/-- The last day of four years is not always there. -/
structure IsProper (p : Place) : Prop where
  century : 0 ≤ p.century ∧ p.century ≤ 3
  cycle : 0 ≤ p.cycle ∧ p.cycle ≤ 24
  year : 0 ≤ p.year ∧ p.year ≤ 3
  day : 0 ≤ p.day ∧ p.day ≤ 365
  leap : p.day = 365 → p.year = 3 ∧ (p.cycle = 24 → p.century = 3)

def dayOfEra (p : Place) : Int :=
  36524 * p.century + 1461 * p.cycle + 365 * p.year + p.day

def yearOfEra (p : Place) : Int :=
  100 * p.century + 4 * p.cycle + p.year

/-- The month of a day, counted from March on. -/
def month (p : Place) : Int :=
  (5 * p.day + 2) / 153

/-- The date of a place. -/
def date (p : Place) (era : Int) : Date :=
  let day := p.day - (153 * p.month + 2) / 5 + 1
  let year := p.yearOfEra + era * 400
  if p.month < 10 then ⟨year, (p.month + 3).toNat, day.toNat⟩
  else ⟨year + 1, (p.month - 9).toNat, day.toNat⟩

variable {p : Place}

theorem exists_dayOfEra {day : Int} (first : 0 ≤ day) (last : day < 146097) :
    ∃ p : Place, p.IsProper ∧ p.dayOfEra = day := by
  by_cases end_ : day = 146096
  · exact ⟨⟨3, 24, 3, 365⟩, ⟨by decide, by decide, by decide, by decide, by decide⟩, end_.symm⟩
  obtain ⟨century, rest, rfl, century_le, rest_lt⟩ : ∃ century rest, day = 36524 * century + rest ∧
      (0 ≤ century ∧ century ≤ 3) ∧ 0 ≤ rest ∧ rest < 36524 :=
    ⟨day / 36524, day % 36524, by omega, by omega, by omega⟩
  clear first last end_
  obtain ⟨cycle, rest, rfl, cycle_le, rest_le⟩ : ∃ cycle later, rest = 1461 * cycle + later ∧
      (0 ≤ cycle ∧ cycle ≤ 24) ∧ 0 ≤ later ∧ later < 1461 :=
    ⟨rest / 1461, rest % 1461, by omega, by omega, by omega⟩
  by_cases leap : rest = 1460
  · have century_end : cycle ≠ 24 := by omega
    refine ⟨⟨century, cycle, 3, 365⟩, ⟨century_le, cycle_le, ?_, ?_, ?_⟩, ?_⟩
    · exact (by decide : (0 : Int) ≤ 3 ∧ (3 : Int) ≤ 3)
    · exact (by decide : (0 : Int) ≤ 365 ∧ (365 : Int) ≤ 365)
    · exact fun _ => ⟨rfl, fun last => absurd last century_end⟩
    · simp only [dayOfEra]
      omega
  · refine ⟨⟨century, cycle, rest / 365, rest % 365⟩, ⟨century_le, cycle_le, ?_, ?_, ?_⟩, ?_⟩
    · exact (by omega : 0 ≤ rest / 365 ∧ rest / 365 ≤ 3)
    · exact (by omega : 0 ≤ rest % 365 ∧ rest % 365 ≤ 365)
    · intro last
      exact absurd last (by omega : rest % 365 ≠ 365)
    · simp only [dayOfEra]
      omega

/-- The formula for the year takes off the leap days that have been. -/
theorem yearOfEra_eq (proper : p.IsProper) :
    (p.dayOfEra - p.dayOfEra / 1460 + p.dayOfEra / 36524 - p.dayOfEra / 146096) / 365 =
      p.yearOfEra := by
  obtain ⟨century, cycle, year, day⟩ := p
  obtain ⟨century_le, cycle_le, year_le, day_le, leap⟩ := proper
  simp only at century_le cycle_le year_le day_le leap
  obtain ⟨count, same⟩ : ∃ count, count = dayOfEra ⟨century, cycle, year, day⟩ := ⟨_, rfl⟩
  rw [← same]
  simp only [dayOfEra] at same
  simp only [yearOfEra]
  by_cases end_ : cycle = 24 ∧ day = 365
  · obtain ⟨rfl, rfl⟩ := end_
    obtain ⟨rfl, at_end⟩ := leap rfl
    obtain rfl := at_end rfl
    subst same
    decide
  · have centuries : count / 36524 = century := by omega
    have eras : count / 146096 = 0 := by omega
    rw [centuries, eras]
    clear centuries eras
    by_cases early : 24 * century + cycle + 365 * year + day < 1460
    · have cycles : count / 1460 = 25 * century + cycle := by omega
      rw [cycles]
      omega
    · have cycles : count / 1460 = 25 * century + cycle + 1 := by omega
      rw [cycles]
      omega

/-- The days before a year, and then the day in it. -/
theorem dayOfEra_eq (proper : p.IsProper) :
    p.dayOfEra = 365 * p.yearOfEra + p.yearOfEra / 4 - p.yearOfEra / 100 + p.day := by
  obtain ⟨century, cycle, year, day⟩ := p
  obtain ⟨century_le, cycle_le, year_le, -, -⟩ := proper
  simp only at century_le cycle_le year_le
  simp only [dayOfEra, yearOfEra]
  have fourths : (100 * century + 4 * cycle + year) / 4 = 25 * century + cycle := by omega
  have hundredths : (100 * century + 4 * cycle + year) / 100 = century := by omega
  rw [fourths, hundredths]
  omega

theorem ofDays_eq (proper : p.IsProper) (era : Int) :
    ofDays (146097 * era + p.dayOfEra - 719468) = p.date era := by
  have year := yearOfEra_eq proper
  have day := dayOfEra_eq proper
  have within : 0 ≤ p.dayOfEra ∧ p.dayOfEra < 146097 := by
    obtain ⟨century_le, cycle_le, year_le, day_le, leap⟩ := proper
    unfold dayOfEra
    omega
  have era_eq : (146097 * era + p.dayOfEra - 719468 + 719468) / 146097 = era := by omega
  have rest_eq : (146097 * era + p.dayOfEra - 719468 + 719468) % 146097 = p.dayOfEra := by omega
  have day_eq : p.dayOfEra - (365 * p.yearOfEra + p.yearOfEra / 4 - p.yearOfEra / 100) = p.day := by
    omega
  simp only [ofDays, era_eq, rest_eq, year, day_eq]
  rfl

theorem yearOfEra_le (proper : p.IsProper) : 0 ≤ p.yearOfEra ∧ p.yearOfEra < 400 := by
  obtain ⟨century_le, cycle_le, year_le, -, -⟩ := proper
  unfold yearOfEra
  omega

theorem month_le (proper : p.IsProper) : 0 ≤ p.month ∧ p.month ≤ 11 := by
  have day_le := proper.day
  unfold month
  omega

/-- The days before a month, counted from March on. -/
theorem first_le_day (p : Place) : (153 * p.month + 2) / 5 ≤ p.day := by
  unfold month
  omega

theorem day_lt_first (p : Place) : p.day < (153 * (p.month + 1) + 2) / 5 := by
  unfold month
  omega

theorem toDays_date (proper : p.IsProper) (era : Int) :
    (p.date era).toDays = 146097 * era + p.dayOfEra - 719468 := by
  have year_le := yearOfEra_le proper
  have months := month_le proper
  have first := first_le_day p
  have era_eq : (p.yearOfEra + era * 400) / 400 = era := by omega
  have year_eq : (p.yearOfEra + era * 400) % 400 = p.yearOfEra := by omega
  have back : daysBeforeYear (p.yearOfEra + era * 400) =
      146097 * era + (p.dayOfEra - p.day) - 719468 := by
    rw [daysBeforeYear, era_eq, year_eq, dayOfEra_eq proper]
    omega
  unfold date
  simp only
  split
  · have month_eq : (((p.month + 3).toNat : Int) + 9) % 12 = p.month := by omega
    rw [toDays_eq, marchYear, if_neg (by omega), back, daysBeforeMonth, month_eq]
    omega
  · have month_eq : (((p.month - 9).toNat : Int) + 9) % 12 = p.month := by omega
    rw [toDays_eq, marchYear, if_pos (by omega), Int.add_sub_cancel, back, daysBeforeMonth,
      month_eq]
    omega

/-- A year that ends with the last day of all four has a leap day. -/
theorem isLeapYear_of_day (proper : p.IsProper) (last : p.day = 365) (era : Int) :
    isLeapYear (p.yearOfEra + era * 400 + 1) = true := by
  obtain ⟨century_le, cycle_le, -, -, leap⟩ := proper
  obtain ⟨year, at_end⟩ := leap last
  rw [isLeapYear_iff, yearOfEra, year]
  omega

/-- The months from March to December. -/
theorem daysInMonth_of_lt {month : Int} (first : 0 ≤ month) (inside : month < 10) (year : Int) :
    (daysInMonth year (month + 3).toNat : Int) =
      (153 * (month + 1) + 2) / 5 - (153 * month + 2) / 5 := by
  obtain ⟨count, rfl⟩ := Int.eq_ofNat_of_zero_le first
  have table : ∀ count < 10, (daysInMonth 0 (count + 3) : Int) =
      (153 * ((count : Int) + 1) + 2) / 5 - (153 * (count : Int) + 2) / 5 := by
    decide
  have same : ((count : Int) + 3).toNat = count + 3 := by omega
  rw [same, daysInMonth_of_ne (by omega)]
  exact table count (by omega)

theorem isProper_date (proper : p.IsProper) (era : Int) : (p.date era).IsProper := by
  obtain ⟨first, last⟩ := month_le proper
  have day_le := proper.day
  have from_first := first_le_day p
  have to_next := day_lt_first p
  by_cases before : p.month < 10
  · have length := daysInMonth_of_lt first before (p.yearOfEra + era * 400)
    simp only [date, before, if_true]
    exact isProper_mk (by omega) (by omega)
  · simp only [date, before, if_false]
    by_cases january : p.month = 10
    · rw [january] at from_first to_next ⊢
      have length : daysInMonth (p.yearOfEra + era * 400 + 1) (10 - 9 : Int).toNat = 31 := rfl
      exact isProper_mk (by decide) (by omega)
    · have february : p.month = 11 := by omega
      rw [february] at from_first ⊢
      have leap (last : p.day = 365) := isLeapYear_of_day proper last era
      have length : daysInMonth (p.yearOfEra + era * 400 + 1) (11 - 9 : Int).toNat =
          if isLeapYear (p.yearOfEra + era * 400 + 1) then 29 else 28 := rfl
      refine isProper_mk (by decide) ⟨by omega, ?_⟩
      rw [length]
      split
      · omega
      · rename_i short
        have not_last : p.day ≠ 365 := mt leap short
        omega

end Place

theorem exists_place (days : Int) :
    ∃ era, ∃ p : Place, p.IsProper ∧ days = 146097 * era + p.dayOfEra - 719468 := by
  have within : 0 ≤ (days + 719468) % 146097 ∧ (days + 719468) % 146097 < 146097 := by omega
  obtain ⟨p, proper, same⟩ := Place.exists_dayOfEra within.1 within.2
  exact ⟨(days + 719468) / 146097, p, proper, by omega⟩

/-- Every count has its date. -/
theorem toDays_ofDays (days : Int) : (ofDays days).toDays = days := by
  obtain ⟨era, p, proper, rfl⟩ := exists_place days
  rw [Place.ofDays_eq proper, Place.toDays_date proper]

theorem isProper_ofDays (days : Int) : (ofDays days).IsProper := by
  obtain ⟨era, p, proper, rfl⟩ := exists_place days
  rw [Place.ofDays_eq proper]
  exact Place.isProper_date proper era

end Date

end StreamingChat.Calendar
