/-!
# The proleptic Gregorian calendar

Dates of the Gregorian calendar, extended to all years by its own rule, and their numbering by
days from 1970-01-01.

* `Date.Valid` — the month exists and the day lies in it.
* `Date.dayNumber` — the day count of a date, straight from the calendar's rules: the years
  before it, the months before it, the days before it.
* `Date.ofDayNumber` — the date of a day count.  It counts from a first of March, which puts the
  leap day at the end of the year, and divides by the calendar's cycles: 400 years, 100 years,
  4 years, 1 year.

The two are inverse: `dayNumber_ofDayNumber`, and `valid_ofDayNumber` says that only dates which
exist arise.
-/

namespace FrameTiming

/-- A calendar date. -/
@[ext] structure Date where
  /-- The year; zero is the year before year one. -/
  year : Int
  /-- The month, from 1. -/
  month : Nat
  /-- The day of the month, from 1. -/
  day : Nat
deriving DecidableEq, Repr

namespace Date

/-! ## The rules of the calendar -/

/-- Every fourth year is a leap year, of the whole centuries only every fourth. -/
def IsLeapYear (year : Int) : Prop := year % 4 = 0 ∧ (year % 100 ≠ 0 ∨ year % 400 = 0)

instance (year : Int) : Decidable (IsLeapYear year) := inferInstanceAs (Decidable (_ ∧ _))

/-- The length of a month; zero when there is no such month. -/
def daysInMonth (year : Int) : Nat → Nat
  | 1 => 31
  | 2 => if IsLeapYear year then 29 else 28
  | 3 => 31
  | 4 => 30
  | 5 => 31
  | 6 => 30
  | 7 => 31
  | 8 => 31
  | 9 => 30
  | 10 => 31
  | 11 => 30
  | 12 => 31
  | _ => 0

/-- A date exists when its month does and its day lies in that month. -/
def Valid (d : Date) : Prop :=
  1 ≤ d.month ∧ d.month ≤ 12 ∧ 1 ≤ d.day ∧ d.day ≤ daysInMonth d.year d.month

instance (d : Date) : Decidable d.Valid := inferInstanceAs (Decidable (_ ∧ _))

/-! ## Counting days -/

/-- The leap years from year one through `year`, counted negatively before year one. -/
def leapYearsThrough (year : Int) : Int := year / 4 - year / 100 + year / 400

/-- The days from 1970-01-01 to the first day of `year`. -/
def daysBeforeYear (year : Int) : Int :=
  365 * (year - 1970) + (leapYearsThrough (year - 1) - leapYearsThrough 1969)

/-- The days of `year` before the first of `month`. -/
def daysBeforeMonth (year : Int) (month : Nat) : Nat :=
  (List.range (month - 1)).foldl (fun days i => days + daysInMonth year (i + 1)) 0

/-- The days from 1970-01-01 to the date. -/
def dayNumber (d : Date) : Int :=
  daysBeforeYear d.year + daysBeforeMonth d.year d.month + (d.day - 1)

/-! ## The date of a day -/

/-- The days from 0000-03-01 to 1970-01-01. -/
def marchOffset : Int := 719468

/-- A year that begins on the first of March, and a day of it counted from zero. -/
structure MarchDay where
  /-- The year in which the first of March falls. -/
  year : Int
  /-- Days since that first of March. -/
  day : Int

/-- Finds the March year of a day counted from 0000-03-01.  A fourth century and a fourth year
are one day longer than the others of their cycle, hence the two minima. -/
def marchDay (n : Int) : MarchDay :=
  let inEra := n % 146097
  let century := min (inEra / 36524) 3
  let inCentury := inEra - century * 36524
  let inQuad := inCentury % 1461
  let year := min (inQuad / 365) 3
  ⟨n / 146097 * 400 + century * 100 + inCentury / 1461 * 4 + year, inQuad - year * 365⟩

/-- The month of a March day, counted from zero for March.  Five months in a row have 153 days,
so the month lengths follow from one division. -/
def MarchDay.month (m : MarchDay) : Int := (5 * m.day + 2) / 153

/-- The date of a March day; January and February belong to the next year. -/
def MarchDay.date (m : MarchDay) : Date where
  year := if m.month < 10 then m.year else m.year + 1
  month := (if m.month < 10 then m.month + 3 else m.month - 9).toNat
  day := (m.day - (153 * m.month + 2) / 5 + 1).toNat

/-- The date that lies `n` days after 1970-01-01. -/
def ofDayNumber (n : Int) : Date := (marchDay (n + marchOffset)).date

/-! ## Months and days before them

From March on the month lengths do not depend on the year, and five months in a row have 153
days.  February is the only month that does; its length is counted by `leapYearsThrough`. -/

/-- February takes the leap day. -/
theorem daysInMonth_two (year : Int) :
    (daysInMonth year 2 : Int) = 28 + leapYearsThrough year - leapYearsThrough (year - 1) := by
  simp only [daysInMonth, leapYearsThrough]
  split <;> rename_i h <;> unfold IsLeapYear at h <;> omega

/-- Month lengths from March on. -/
theorem daysInMonth_add_three (year : Int) {k : Nat} (hk : k ≤ 9) :
    daysInMonth year (k + 3) + (153 * k + 2) / 5 = (153 * (k + 1) + 2) / 5 := by
  have hcases : k = 0 ∨ k = 1 ∨ k = 2 ∨ k = 3 ∨ k = 4 ∨ k = 5 ∨ k = 6 ∨ k = 7 ∨ k = 8 ∨ k = 9 := by
    omega
  rcases hcases with rfl | rfl | rfl | rfl | rfl | rfl | rfl | rfl | rfl | rfl <;> rfl

theorem daysBeforeMonth_succ (year : Int) (m : Nat) :
    daysBeforeMonth year (m + 2) = daysBeforeMonth year (m + 1) + daysInMonth year (m + 1) := by
  simp [daysBeforeMonth, List.range_succ]

/-- The days before a month from March on. -/
theorem daysBeforeMonth_add_three (year : Int) {k : Nat} (hk : k ≤ 9) :
    daysBeforeMonth year (k + 3) = 31 + daysInMonth year 2 + (153 * k + 2) / 5 := by
  induction k with
  | zero => rfl
  | succ k ih =>
    have hlen := daysInMonth_add_three year (k := k) (by omega)
    have hsucc : daysBeforeMonth year (k + 1 + 3)
        = daysBeforeMonth year (k + 3) + daysInMonth year (k + 3) :=
      daysBeforeMonth_succ year (k + 2)
    rw [hsucc, ih (by omega)]
    omega

/-! ## The two directions agree -/

/-- How many whole eras, centuries, four-year cycles and years have passed before a day. -/
theorem marchDay_cycles (n : Int) : ∃ era c q y d : Int,
    marchDay n = ⟨400 * era + 100 * c + 4 * q + y, d⟩ ∧
    n = 146097 * era + 36524 * c + 1461 * q + 365 * y + d ∧
    (0 ≤ c ∧ c ≤ 3) ∧ (0 ≤ q ∧ q ≤ 24) ∧ (0 ≤ y ∧ y ≤ 3) ∧ 0 ≤ d ∧ d ≤ 365 ∧
    (d = 365 → y = 3 ∧ (q = 24 → c = 3)) := by
  obtain ⟨c, hc⟩ : ∃ c, min (n % 146097 / 36524) 3 = c := ⟨_, rfl⟩
  obtain ⟨r, hr⟩ : ∃ r, n % 146097 - c * 36524 = r := ⟨_, rfl⟩
  obtain ⟨y, hy⟩ : ∃ y, min (r % 1461 / 365) 3 = y := ⟨_, rfl⟩
  refine ⟨n / 146097, c, r / 1461, y, r % 1461 - y * 365, ?_, ?_, ?_, ?_, ?_, ?_, ?_, ?_⟩
  · simp only [marchDay, hc, hr, hy]
    congr 1
    omega
  all_goals omega

/-- A March year and its day account for every day, and a day 365 belongs to a leap year. -/
theorem marchDay_spec (n : Int) :
    n = 365 * (marchDay n).year + leapYearsThrough (marchDay n).year + (marchDay n).day ∧
    0 ≤ (marchDay n).day ∧ (marchDay n).day ≤ 365 ∧
    ((marchDay n).day = 365 → IsLeapYear ((marchDay n).year + 1)) := by
  obtain ⟨era, c, q, y, d, hm, hn, hc, hq, hy, hd, hd', hlast⟩ := marchDay_cycles n
  rw [hm]
  simp only [leapYearsThrough, IsLeapYear]
  refine ⟨by omega, hd, hd', fun h => ?_⟩
  obtain ⟨h3, h24⟩ := hlast h
  by_cases hq24 : q = 24
  · have := h24 hq24
    omega
  · omega

/-- The date of a March day exists, and it counts the same days. -/
theorem MarchDay.valid_and_dayNumber_date {m : MarchDay} (h0 : 0 ≤ m.day) (h1 : m.day ≤ 365)
    (hleap : m.day = 365 → IsLeapYear (m.year + 1)) :
    m.date.Valid ∧
      m.date.dayNumber = 365 * m.year + leapYearsThrough m.year + m.day - marchOffset := by
  obtain ⟨year, day⟩ := m
  simp only at h0 h1 hleap
  obtain ⟨k, hk⟩ : ∃ k : Nat, (5 * day + 2) / 153 = k := ⟨((5 * day + 2) / 153).toNat, by omega⟩
  simp only [MarchDay.date, MarchDay.month, hk, Valid, dayNumber, daysBeforeYear, marchOffset]
  have h1969 : leapYearsThrough 1969 = 477 := rfl
  by_cases h10 : k < 10
  · have hmonth : ((k : Int) + 3).toNat = k + 3 := by omega
    have hlen := daysInMonth_add_three year (k := k) (by omega)
    have hbefore := daysBeforeMonth_add_three year (k := k) (by omega)
    have hfeb := daysInMonth_two year
    rw [if_pos (by omega), if_pos (by omega), hmonth, hbefore]
    have hfirst : ((153 * k + 2) / 5 : Nat) ≤ day := by omega
    have hlast : day < ((153 * (k + 1) + 2) / 5 : Nat) := by omega
    have hcast : (153 * (k : Int) + 2) / 5 = ((153 * k + 2) / 5 : Nat) := by omega
    rw [hcast]
    generalize (153 * k + 2) / 5 = before at *
    generalize (153 * (k + 1) + 2) / 5 = after at *
    omega
  · rw [if_neg (by omega), if_neg (by omega)]
    obtain rfl | rfl : k = 10 ∨ k = 11 := by omega
    · simp [daysBeforeMonth, daysInMonth]
      omega
    · have hfeb := daysInMonth_two (year + 1)
      have hlast : day = 365 → daysInMonth (year + 1) 2 = 29 := fun h => if_pos (hleap h)
      have hge : 28 ≤ daysInMonth (year + 1) 2 := by
        simp only [daysInMonth]
        split <;> decide
      have hbefore : daysBeforeMonth (year + 1) 2 = 31 := rfl
      rw [Int.add_sub_cancel] at hfeb
      simp only [Int.reduceSub, Int.cast_ofNat_Int, Int.reduceToNat, hbefore, Int.add_sub_cancel]
      omega

/-- **Every day has a date that exists.** -/
theorem valid_ofDayNumber (n : Int) : (ofDayNumber n).Valid :=
  let ⟨_, h0, h1, hleap⟩ := marchDay_spec (n + marchOffset)
  (MarchDay.valid_and_dayNumber_date h0 h1 hleap).1

/-- **The date of a day counts that day.** -/
theorem dayNumber_ofDayNumber (n : Int) : (ofDayNumber n).dayNumber = n := by
  obtain ⟨hn, h0, h1, hleap⟩ := marchDay_spec (n + marchOffset)
  have := (MarchDay.valid_and_dayNumber_date h0 h1 hleap).2
  rw [ofDayNumber, this]
  omega

end Date

end FrameTiming
