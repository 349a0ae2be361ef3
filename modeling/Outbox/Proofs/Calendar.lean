import Mathlib.Tactic.IntervalCases
import Outbox.Time.Calendar

/-!
# Dates and their day numbers

Every day number has a date of the calendar, and that date has the day number. The calendar repeats
every 400 years, and within such an era the leap days follow a pattern of centuries and of cycles of
four years. The year of a day is computed by one quotient that counts the leap days before it; in
the coordinates of that pattern the quotient is exact.
-/
namespace Outbox.Time.Date

/-! ## Years of an era -/

/-- The year of an era in which a day of the era lies. -/
def yearOfEra (day : Nat) : Nat := (day - day / 1460 + day / 36524 - day / 146096) / 365

/-- The days of an era before a year. -/
def daysBefore (year : Nat) : Nat := 365 * year + year / 4 - year / 100

variable {c q t u : Nat}

/-- The year of a day, given by its century, its cycle of four years, its year in the cycle and its
day in the year. Only the last year of a cycle has a leap day, and that of a century has none. -/
theorem yearOfEra_eq (century : c ≤ 3) (cycle : q ≤ 24) (year : t ≤ 3) (leap : u = 365 → t = 3)
    (day : u ≤ 365) (inside : 1461 * q + 365 * t + u < 36524) :
    yearOfEra (36524 * c + 1461 * q + 365 * t + u) = 100 * c + 4 * q + t := by
  have centuries : (36524 * c + 1461 * q + 365 * t + u) / 36524 = c := by omega
  have eras : (36524 * c + 1461 * q + 365 * t + u) / 146096 = 0 := by omega
  rw [yearOfEra, centuries, eras]
  omega

theorem daysBefore_eq (cycle : q ≤ 24) (year : t ≤ 3) :
    daysBefore (100 * c + 4 * q + t) = 36524 * c + 1461 * q + 365 * t := by
  have centuries : (100 * c + 4 * q + t) / 100 = c := by omega
  have cycles : (100 * c + 4 * q + t) / 4 = 25 * c + q := by omega
  rw [daysBefore, centuries, cycles]
  omega

/-- Every day of an era but the last one has such coordinates. -/
theorem exists_coordinates {day : Nat} (before : day < 146096) :
    ∃ c q t u, day = 36524 * c + 1461 * q + 365 * t + u ∧ c ≤ 3 ∧ q ≤ 24 ∧ t ≤ 3 ∧
      (u = 365 → t = 3) ∧ u ≤ 365 ∧ 1461 * q + 365 * t + u < 36524 := by
  -- Four times 365 days leave one day over: it belongs to the last of the four years.
  refine ⟨day / 36524, day % 36524 / 1461, min (day % 36524 % 1461 / 365) 3,
    day % 36524 % 1461 - 365 * min (day % 36524 % 1461 / 365) 3, ?_⟩
  omega

/-- A day of an era lies in its year, and only leap years have a day with the number 365; the leap
day ends the year that began in the March before it. -/
theorem exists_dayOfYear {day : Nat} (inEra : day < 146097) :
    ∃ u, yearOfEra day < 400 ∧ day = daysBefore (yearOfEra day) + u ∧ u ≤ 365 ∧
      (u = 365 → (yearOfEra day + 1) % 4 = 0 ∧
        ((yearOfEra day + 1) % 100 ≠ 0 ∨ (yearOfEra day + 1) % 400 = 0)) := by
  rcases Nat.lt_or_eq_of_le (Nat.le_of_lt_succ inEra) with before | last
  · obtain ⟨c, q, t, u, rfl, century, cycle, year, leap, bound, inside⟩ := exists_coordinates before
    rw [yearOfEra_eq century cycle year leap bound inside, daysBefore_eq cycle year]
    refine ⟨u, ?_, rfl, bound, ?_⟩
    · omega
    · intro leapDay
      have fourth := leap leapDay
      omega
  · exact ⟨365, by subst last; decide⟩

/-! ## Days of a year -/

/-- The month of a day, counted from March, with its first day. -/
theorem month_of_day {u : Nat} (bound : u ≤ 365) :
    (5 * u + 2) / 153 ≤ 11 ∧ (153 * ((5 * u + 2) / 153) + 2) / 5 ≤ u := by
  omega

/-- The month of the calendar that is so many months behind March. -/
def fromMarch (m : Nat) : Nat := if m < 10 then m + 3 else m - 9

/-- A year that begins in March ends with February, and only the length of that depends on the
year. -/
theorem day_le_daysInMonth {u : Nat} {year : Int} (bound : u ≤ 365)
    (leap : u = 365 → isLeapYear year = true) :
    u - (153 * ((5 * u + 2) / 153) + 2) / 5 + 1 ≤
      daysInMonth year (fromMarch ((5 * u + 2) / 153)) := by
  obtain ⟨last, -⟩ := month_of_day bound
  generalize month : (5 * u + 2) / 153 = m at last ⊢
  by_cases february : m = 11
  · subst february
    simp only [daysInMonth, fromMarch, Nat.reduceLT, if_false, Nat.reduceSub, if_true]
    split
    · omega
    next common =>
      have short : u ≠ 365 := fun leapDay => common (leap leapDay)
      omega
  · interval_cases m <;> simp only [daysInMonth, fromMarch] <;> simp <;> omega

/-! ## Day numbers -/

/-- The date of the day `u` in the year `y` of an era; days and years begin in March. -/
def ofMarch (era : Int) (y u : Nat) : Date where
  year := if (5 * u + 2) / 153 < 10 then (y : Int) + era * 400 else (y : Int) + era * 400 + 1
  month := fromMarch ((5 * u + 2) / 153)
  day := u - (153 * ((5 * u + 2) / 153) + 2) / 5 + 1

theorem ofDayNumber_eq {n era : Int} {day u : Nat} (inEra : day < 146097)
    (number : n + 719468 = era * 146097 + day) (year : day = daysBefore (yearOfEra day) + u) :
    ofDayNumber n = ofMarch era (yearOfEra day) u := by
  have eras : (n + 719468) / 146097 = era := by omega
  have days : ((n + 719468) % 146097).toNat = day := by omega
  have dayOfYear : day - (365 * yearOfEra day + yearOfEra day / 4 - yearOfEra day / 100) = u := by
    unfold daysBefore at year
    omega
  simp only [ofDayNumber, eras, days]
  rw [← yearOfEra, dayOfYear]
  rfl

/-- A day number by the year and the month that are counted from March. -/
theorem dayNumber_eq {d : Date} {year : Int} {m : Nat}
    (years : (if d.month ≤ 2 then d.year - 1 else d.year) = year)
    (months : (d.month + 9) % 12 = m) :
    d.dayNumber = year / 400 * 146097 + (year % 400 * 365 + year % 400 / 4 - year % 400 / 100 +
      ((153 * m + 2) / 5 + d.day - 1 : Nat)) - 719468 := by
  subst years months
  rfl

theorem dayNumber_ofMarch {y u : Nat} (era : Int) (inEra : y < 400) (bound : u ≤ 365) :
    (ofMarch era y u).dayNumber = era * 146097 + (daysBefore y + u : Nat) - 719468 := by
  obtain ⟨last, first⟩ := month_of_day bound
  have months : ((ofMarch era y u).month + 9) % 12 = (5 * u + 2) / 153 := by
    simp only [ofMarch, fromMarch]
    split <;> omega
  have years : (if (ofMarch era y u).month ≤ 2 then (ofMarch era y u).year - 1
      else (ofMarch era y u).year) = y + era * 400 := by
    simp only [ofMarch, fromMarch]
    split <;> split <;> omega
  have day : (153 * ((5 * u + 2) / 153) + 2) / 5 + (ofMarch era y u).day - 1 = u := by
    simp only [ofMarch]
    omega
  have eras : ((y : Int) + era * 400) / 400 = era := by omega
  have yearOfEra : ((y : Int) + era * 400) % 400 = y := by omega
  rw [dayNumber_eq years months, day, eras, yearOfEra, daysBefore]
  omega

theorem exists?_ofMarch {y u : Nat} (era : Int) (bound : u ≤ 365)
    (leap : u = 365 → (y + 1) % 4 = 0 ∧ ((y + 1) % 100 ≠ 0 ∨ (y + 1) % 400 = 0)) :
    (ofMarch era y u).exists? = true := by
  obtain ⟨last, -⟩ := month_of_day bound
  have months : 1 ≤ fromMarch ((5 * u + 2) / 153) ∧ fromMarch ((5 * u + 2) / 153) ≤ 12 := by
    unfold fromMarch
    split <;> omega
  have leapYear : u = 365 → isLeapYear (ofMarch era y u).year = true := by
    intro leapDay
    have year : (ofMarch era y u).year = y + era * 400 + 1 := by
      subst leapDay
      rfl
    obtain ⟨fourth, century⟩ := leap leapDay
    rw [year]
    simp only [isLeapYear, Bool.and_eq_true, Bool.or_eq_true, beq_iff_eq, bne_iff_ne]
    omega
  have days := day_le_daysInMonth bound leapYear
  simp only [exists?, Bool.and_eq_true, decide_eq_true_eq]
  exact ⟨⟨⟨months.1, months.2⟩, Nat.le_add_left 1 _⟩, days⟩

/-- The date of a day number is one of the calendar, and it has that day number. -/
theorem ofDayNumber_spec (n : Int) :
    (ofDayNumber n).dayNumber = n ∧ (ofDayNumber n).exists? = true := by
  have inEra : ((n + 719468) % 146097).toNat < 146097 := by omega
  obtain ⟨u, year, day, bound, leap⟩ := exists_dayOfYear inEra
  have number : n + 719468 =
      (n + 719468) / 146097 * 146097 + (((n + 719468) % 146097).toNat : Nat) := by omega
  rw [ofDayNumber_eq inEra number day]
  constructor
  · rw [dayNumber_ofMarch _ year bound, ← day]
    omega
  · exact exists?_ofMarch _ bound leap

/-- A day of the calendar is in a year of few digits. -/
theorem year_ofDayNumber {n : Int} (low : -100000000 ≤ n) (high : n ≤ 100000000) :
    -300000 ≤ (ofDayNumber n).year ∧ (ofDayNumber n).year ≤ 300000 := by
  have inEra : ((n + 719468) % 146097).toNat < 146097 := by omega
  obtain ⟨u, year, day, -, -⟩ := exists_dayOfYear inEra
  have number : n + 719468 =
      (n + 719468) / 146097 * 146097 + (((n + 719468) % 146097).toNat : Nat) := by omega
  rw [ofDayNumber_eq inEra number day]
  simp only [ofMarch]
  split <;> omega

end Outbox.Time.Date
