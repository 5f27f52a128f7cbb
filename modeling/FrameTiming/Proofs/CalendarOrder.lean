import FrameTiming.Calendar.DateTime
import Mathlib.Data.Prod.Lex
import Mathlib.Tactic.Lemma

/-!
# The calendar runs forward

Dates are compared by year, then month, then day, and points in time go on with hour, minute,
second and nanosecond.  Time itself is a count of days and of seconds.  This module says that the
two orders are the same for everything that exists.

* `Date.dayNumber_lt_iff` — a later date has a larger day number.  With `dayNumber_ofDayNumber`
  this pins the day number down: it numbers the dates that exist one after the other, without a
  gap.
* `Date.le_year_iff` — the years between which a day number lies.
* `DateTime.fields_lt_iff` — the same for points in time, by their seconds and nanoseconds.

**Where months end.**  Within a year only `daysBeforeMonth_add_le` is needed: the days of a month
are over before the next one begins.  `daysBeforeMonth_thirteen` closes the year with the leap day
that `daysBeforeYear` counts.
-/

namespace FrameTiming

namespace Date

/-! ## Years -/

lemma daysBeforeYear_le {year year' : ℤ} (h : year ≤ year') :
    daysBeforeYear year ≤ daysBeforeYear year' := by
  rcases h.eq_or_lt with rfl | hlt
  · exact le_rfl
  · simp only [daysBeforeYear, leapYearsThrough]
    omega

/-- A year lasts until the next one begins. -/
lemma daysBeforeMonth_thirteen (year : ℤ) :
    daysBeforeYear year + daysBeforeMonth year 13 = daysBeforeYear (year + 1) := by
  have hdecember : daysBeforeMonth year 12 = 31 + daysInMonth year 2 + 275 :=
    daysBeforeMonth_add_three year (k := 9) (by decide)
  have hend : daysBeforeMonth year 13 = daysBeforeMonth year 12 + 31 :=
    daysBeforeMonth_succ year 11
  have hfebruary := daysInMonth_two year
  rw [hend, hdecember, daysBeforeYear, daysBeforeYear, Int.add_sub_cancel]
  omega

/-! ## Months -/

lemma daysInMonth_le (year : ℤ) (m : ℕ) : daysInMonth year m ≤ 31 := by
  unfold daysInMonth
  split <;> try split
  all_goals decide

/-- The days of a month are over before a later month begins. -/
lemma daysBeforeMonth_add_le (year : ℤ) {m m' : ℕ} (hm : 1 ≤ m) (h : m < m') :
    daysBeforeMonth year m + daysInMonth year m ≤ daysBeforeMonth year m' := by
  induction m', h using Nat.le_induction with
  | base =>
    obtain ⟨n, rfl⟩ : ∃ n, m = n + 1 := ⟨m - 1, by omega⟩
    exact (daysBeforeMonth_succ year n).ge
  | succ k hk ih =>
    obtain ⟨n, rfl⟩ : ∃ n, k = n + 1 := ⟨k - 1, by omega⟩
    exact ih.trans (Nat.le_of_add_right_le (daysBeforeMonth_succ year n).ge)

lemma dayNumber_bounds {d : Date} (hd : d.Valid) :
    daysBeforeYear d.year ≤ d.dayNumber ∧ d.dayNumber < daysBeforeYear (d.year + 1) := by
  obtain ⟨hm, hm', hday, hday'⟩ := hd
  have hend := daysBeforeMonth_add_le d.year hm (show d.month < 13 by omega)
  have hyear := daysBeforeMonth_thirteen d.year
  rw [dayNumber]
  omega

/-- **A year is reached with its first day.** -/
theorem le_year_iff {d : Date} (hd : d.Valid) (year : ℤ) :
    year ≤ d.year ↔ daysBeforeYear year ≤ d.dayNumber := by
  obtain ⟨hfirst, hlast⟩ := dayNumber_bounds hd
  constructor
  · intro h
    exact (daysBeforeYear_le h).trans hfirst
  · intro h
    by_contra hlt
    have := daysBeforeYear_le (show d.year + 1 ≤ year by omega)
    omega

/-! ## Dates in order -/

/-- The fields of a date, compared one after the other. -/
def fields (d : Date) : ℤ ×ₗ ℕ ×ₗ ℕ := toLex (d.year, toLex (d.month, d.day))

@[simp] lemma fields_inj {d e : Date} : d.fields = e.fields ↔ d = e := by
  simp [fields, Date.ext_iff]

lemma dayNumber_lt_of_fields_lt {d e : Date} (hd : d.Valid) (he : e.Valid)
    (h : d.fields < e.fields) : d.dayNumber < e.dayNumber := by
  simp only [fields, Prod.Lex.toLex_lt_toLex] at h
  rcases h with hyear | ⟨hyear, hmonth | ⟨hmonth, hday⟩⟩
  · calc d.dayNumber
        < daysBeforeYear (d.year + 1) := (dayNumber_bounds hd).2
      _ ≤ daysBeforeYear e.year := daysBeforeYear_le hyear
      _ ≤ e.dayNumber := (dayNumber_bounds he).1
  · have hend := daysBeforeMonth_add_le d.year hd.1 hmonth
    obtain ⟨-, -, -, hlast⟩ := hd
    obtain ⟨-, -, hfirst, -⟩ := he
    rw [dayNumber, dayNumber, ← hyear]
    omega
  · rw [dayNumber, dayNumber, hyear, hmonth]
    omega

/-- **A later date has a larger day number.** -/
theorem dayNumber_lt_iff {d e : Date} (hd : d.Valid) (he : e.Valid) :
    d.dayNumber < e.dayNumber ↔ d.fields < e.fields := by
  refine ⟨fun h => ?_, dayNumber_lt_of_fields_lt hd he⟩
  rcases lt_trichotomy d.fields e.fields with hlt | heq | hgt
  · exact hlt
  · rw [fields_inj.1 heq] at h
    exact absurd h (lt_irrefl _)
  · exact absurd h (dayNumber_lt_of_fields_lt he hd hgt).asymm

lemma dayNumber_inj {d e : Date} (hd : d.Valid) (he : e.Valid) :
    d.dayNumber = e.dayNumber ↔ d = e := by
  refine ⟨fun h => ?_, fun h => h ▸ rfl⟩
  rcases lt_trichotomy d.fields e.fields with hlt | heq | hgt
  · exact absurd h (dayNumber_lt_of_fields_lt hd he hlt).ne
  · exact fields_inj.1 heq
  · exact absurd h (dayNumber_lt_of_fields_lt he hd hgt).ne'

end Date

/-! ## Points in time in order -/

namespace DateTime

/-- The fields of a point in time, compared one after the other. -/
def fields (t : DateTime) : (ℤ ×ₗ ℕ ×ₗ ℕ) ×ₗ ℕ ×ₗ ℕ ×ₗ ℕ ×ₗ ℕ :=
  toLex (t.date.fields, toLex (t.hour, toLex (t.minute, toLex (t.second, t.nanosecond))))

/-- **A later point in time lies in a later second, or later in the same one.** -/
theorem fields_lt_iff {t u : DateTime} (ht : t.Valid) (hu : u.Valid) :
    t.fields < u.fields ↔ t.unixSeconds < u.unixSeconds ∨
      t.unixSeconds = u.unixSeconds ∧ t.nanosecond < u.nanosecond := by
  obtain ⟨htdate, hthour, htminute, htsecond⟩ := ht
  obtain ⟨hudate, huhour, huminute, husecond⟩ := hu
  simp only [fields, Prod.Lex.toLex_lt_toLex, Date.fields_inj]
  rw [← Date.dayNumber_lt_iff htdate hudate, ← Date.dayNumber_inj htdate hudate, unixSeconds,
    unixSeconds]
  omega

end DateTime

end FrameTiming
