import FrameTiming.Duration

/-!
# Timestamps

A timestamp is a point in time, counted from the epoch in units of its timebase.  Timestamps and
durations form an affine space in which every operation may refuse: the difference of two
timestamps is a duration, and a duration can be added to a timestamp, but two timestamps cannot
be added.

* `add?`, `sub?`, `since?` — exact or refused.
* `toTicks`, `toNanos?` — conversion between the timebases.
* `latest` — the last nanosecond that can be named, used for "never".
* `nextSecond?` — the whole second at or after a tick timestamp.
-/

namespace FrameTiming

/-- A point in time, counted from the epoch in units of the timebase `b`. -/
@[ext] structure Timestamp (b : Timebase) where
  /-- How many units after the epoch; negative before it. -/
  count : Int64
deriving DecidableEq, Repr

namespace Timestamp

variable {b : Timebase}

/-- The number of units after the epoch as an integer. -/
def toInt (t : Timestamp b) : Int := t.count.toInt

theorem fits (t : Timestamp b) : Fits t.toInt := fits_toInt t.count

/-- A timestamp is decided by its distance from the epoch. -/
theorem toInt_inj {t u : Timestamp b} : t.toInt = u.toInt ↔ t = u := by
  rw [toInt, toInt, Int64.toInt_inj, Timestamp.ext_iff]

/-- The timestamp of an integer that fits. -/
theorem exists_toInt_eq {n : Int} (h : Fits n) : ∃ t : Timestamp b, t.toInt = n :=
  ⟨⟨Int64.ofInt n⟩, Word.toInt_ofInt h⟩

/-- The epoch itself, which is also the default. -/
def epoch : Timestamp b := ⟨0⟩

instance : Inhabited (Timestamp b) := ⟨epoch⟩

@[simp] theorem toInt_epoch : (epoch : Timestamp b).toInt = 0 := rfl

/-- The last point in time that can be named. -/
def latest : Timestamp .nanosecond := ⟨Int64.maxValue⟩

instance : LT (Timestamp b) := ⟨fun t u => t.count < u.count⟩

instance : LE (Timestamp b) := ⟨fun t u => t.count ≤ u.count⟩

instance (t u : Timestamp b) : Decidable (t < u) :=
  inferInstanceAs (Decidable (t.count < u.count))

instance (t u : Timestamp b) : Decidable (t ≤ u) :=
  inferInstanceAs (Decidable (t.count ≤ u.count))

theorem lt_iff_toInt_lt {t u : Timestamp b} : t < u ↔ t.toInt < u.toInt :=
  Int64.lt_iff_toInt_lt

theorem le_iff_toInt_le {t u : Timestamp b} : t ≤ u ↔ t.toInt ≤ u.toInt :=
  Int64.le_iff_toInt_le

/-! ## Moving and measuring -/

/-- The timestamp of a checked count. -/
def ofCount? (count : Option Int64) : Option (Timestamp b) := count.map Timestamp.mk

/-- The point in time `d` later. -/
def add? (t : Timestamp b) (d : Duration b) : Option (Timestamp b) :=
  ofCount? (Word.add? t.count d.count)

/-- The point in time `d` earlier. -/
def sub? (t : Timestamp b) (d : Duration b) : Option (Timestamp b) :=
  ofCount? (Word.sub? t.count d.count)

/-- The time that has passed since `u` when it is `t`. -/
def since? (t u : Timestamp b) : Option (Duration b) :=
  Duration.ofCount? (Word.sub? t.count u.count)

/-- The time that has passed since the epoch. -/
def sinceEpoch (t : Timestamp b) : Duration b := ⟨t.count⟩

/-- A checked timestamp is known by its checked count. -/
theorem ofCount?_eq_some_iff {count : Option Int64} {t : Timestamp b} :
    ofCount? count = some t ↔ count = some t.count := by
  cases count <;> simp [ofCount?, Timestamp.ext_iff]

theorem add?_eq_some_iff {t u : Timestamp b} {d : Duration b} :
    t.add? d = some u ↔ u.toInt = t.toInt + d.toInt := by
  rw [add?, ofCount?_eq_some_iff, Word.add?_eq_some_iff]; rfl

theorem sub?_eq_some_iff {t u : Timestamp b} {d : Duration b} :
    t.sub? d = some u ↔ u.toInt = t.toInt - d.toInt := by
  rw [sub?, ofCount?_eq_some_iff, Word.sub?_eq_some_iff]; rfl

theorem since?_eq_some_iff {t u : Timestamp b} {d : Duration b} :
    t.since? u = some d ↔ d.toInt = t.toInt - u.toInt := by
  rw [since?, Duration.ofCount?_eq_some_iff, Word.sub?_eq_some_iff]; rfl

theorem since?_eq_none_iff {t u : Timestamp b} :
    t.since? u = none ↔ ¬ Fits (t.toInt - u.toInt) := by
  rw [since?, Duration.ofCount?_eq_none_iff, Word.sub?_eq_ofInt?, Word.ofInt?_eq_none_iff]; rfl

@[simp] theorem toInt_sinceEpoch (t : Timestamp b) : t.sinceEpoch.toInt = t.toInt := rfl

/-! ## Conversion between timebases -/

/-- A nanosecond timestamp in ticks, truncated toward the epoch. -/
def toTicks (t : Timestamp .nanosecond) : Timestamp .tick :=
  ⟨Rate.fromNanos t.count ticksPerSecond⟩

/-- A tick timestamp in nanoseconds, truncated toward the epoch. -/
def toNanos? (t : Timestamp .tick) : Option (Timestamp .nanosecond) :=
  ofCount? (Rate.toNanos? t.count ticksPerSecond)

/-- **The conversion to ticks is exact.** -/
theorem toInt_toTicks (t : Timestamp .nanosecond) :
    t.toTicks.toInt = Rate.exact t.toInt 1000000000 90000 :=
  Duration.toInt_fromNanos_ticksPerSecond t.count

/-- A later timestamp is not an earlier tick. -/
theorem toTicks_mono {t u : Timestamp .nanosecond} (h : t ≤ u) : t.toTicks ≤ u.toTicks := by
  rw [le_iff_toInt_le] at h
  rw [le_iff_toInt_le, toInt_toTicks, toInt_toTicks]
  exact Rate.exact_mono (by decide) (by decide) h

/-- **The conversion to nanoseconds is exact.** -/
theorem toNanos?_eq_some_iff {t : Timestamp .tick} {u : Timestamp .nanosecond} :
    t.toNanos? = some u ↔ u.toInt = Rate.exact t.toInt 90000 1000000000 := by
  rw [toNanos?, ofCount?_eq_some_iff, Duration.toNanos?_ticksPerSecond, Word.ofInt?_eq_some_iff]
  rfl

/-! ## Whole seconds -/

/-- The first whole second not before `t`.  The remainder of a truncated division has the sign
of `t`, so taking it away rounds a timestamp before the epoch up as well. -/
def nextSecond? (t : Timestamp .tick) : Option (Timestamp .tick) :=
  let past := t.count % ticksPerSecond
  if 0 < past then t.add? ⟨ticksPerSecond - past⟩ else some ⟨t.count - past⟩

end Timestamp

end FrameTiming
