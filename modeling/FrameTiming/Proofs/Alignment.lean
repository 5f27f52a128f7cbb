import FrameTiming.Proofs.Placement
import Mathlib.Order.Bounds.Basic

/-!
# Starting on a whole second

Several encoders that start on the next whole second line up, as long as they agree which second
that is.  The second is rounded up, but from a number of ticks that has been rounded down before, so
a clock that is a little past a second still starts on it.

* `Timestamp.isLeast_ceilSecond`, `Timestamp.nextSecond?_eq_none_iff` — the next whole second of any
  timestamp, and the few that have none.
* `Timestamp.InWindow`, `Timestamp.inWindow_iff` — the second in nanoseconds.  Each second collects
  the clocks of one second's length, ending 11 111 nanoseconds past it, which is the last nanosecond
  before its first tick is over.
* `Origin.ComesTo` — where an origin leads, and when it is refused.
* `Origin.resolve_isExact` — all of it for the origins that look at the clock.

**No second is missed.**  The ticks of a clock that is not broken lie far below the range of ticks,
so rounding them up never leaves it.  Only the offset can.
-/

namespace FrameTiming

namespace Timestamp

variable {t u : Timestamp .tick}

/-! ## Whole seconds -/

/-- Rounding up to whole seconds is rounding up the number of them. -/
lemma isLeast_seconds (n : ℤ) : IsLeast {j : ℤ | n ≤ 90000 * j} (-(-n / 90000)) := by
  constructor
  · exact le_ceilSecond n
  · intro j (hj : n ≤ 90000 * j)
    omega

lemma isLeast_ceilSecond (n : ℤ) : IsLeast {m : ℤ | 90000 ∣ m ∧ n ≤ m} (ceilSecond n) := by
  constructor
  · exact ⟨dvd_mul_right .., le_ceilSecond n⟩
  · rintro m ⟨⟨j, rfl⟩, hj⟩
    have hle := (isLeast_seconds n).2 hj
    unfold ceilSecond
    omega

lemma exists_nextSecond? (h : ceilSecond t.toInt ≤ 2 ^ 63 - 1) :
    ∃ u, t.nextSecond? = some u ∧ u.toInt = ceilSecond t.toInt := by
  have hfits := t.fits
  have hle := le_ceilSecond t.toInt
  obtain ⟨u, hu⟩ : ∃ u : Timestamp .tick, u.toInt = ceilSecond t.toInt :=
    exists_toInt_eq (by unfold Fits at *; omega)
  exact ⟨u, nextSecond?_eq_some_iff.2 hu, hu⟩

/-- **Only a whole second beyond the last tick is refused.** -/
lemma nextSecond?_eq_none_iff : t.nextSecond? = none ↔ 2 ^ 63 - 1 < ceilSecond t.toInt := by
  have hfits := t.fits
  have hle := le_ceilSecond t.toInt
  rw [eq_none_iff_not_fits fun u => nextSecond?_eq_some_iff]
  unfold Fits at *
  omega

lemma nextSecond?_congr (h : ceilSecond t.toInt = ceilSecond u.toInt) :
    t.nextSecond? = u.nextSecond? := by
  refine Option.ext fun second => ?_
  rw [nextSecond?_eq_some_iff, nextSecond?_eq_some_iff, h]

/-! ## The same in nanoseconds -/

/-- A clock at `n` nanoseconds is taken to second `k`. -/
def InWindow (n k : ℤ) : Prop :=
  n - 11112 < k * 1000000000 ∧ k * 1000000000 ≤ n + 1000000000 - 11112

/-- **Which second a clock is taken to.**  A tick is 100000 / 9 nanoseconds, so up to 11 111 of them
past a second are no tick yet. -/
lemma inWindow_iff {n k : ℤ} (hn : 0 ≤ n) :
    InWindow n k ↔ k = -(-(n * 9).tdiv 100000 / 90000) := by
  rw [Int.tdiv_eq_ediv_of_nonneg (by omega), InWindow]
  omega

end Timestamp

/-! ## Where an origin leads -/

namespace Origin

/-- An origin leads to the tick `n`.  Either it resolves to that tick, or it is refused because the
tick lies beyond the last one; it never lies before the first. -/
structure ComesTo (origin : Origin) (clock : Reading) (n : ℤ) : Prop where
  least_le : -2 ^ 63 ≤ n
  exists_start : n ≤ 2 ^ 63 - 1 → ∃ start, origin.resolve clock = .ok start ∧ start.toInt = n
  refused_iff : origin.resolve clock = .error .outOfRange ↔ 2 ^ 63 - 1 < n

variable {origin : Origin} {clock clock' : Reading} {now now' : Timestamp .tick}

lemma resolve_eq_outOfRange_iff (hreads : origin.readsClock = true) (hnow : clock.ticks = .ok now) :
    origin.resolve clock = .error .outOfRange ↔ origin.place? now = none := by
  rw [resolve, if_pos hreads, hnow]
  simp only [resolveAt]
  cases origin.place? now <;> simp

/-- A base from the epoch on that fits leaves only the offset to fail, and only upward. -/
lemma comesTo_base_add_offset (hreads : origin.readsClock = true) (hnow : clock.ticks = .ok now)
    (hbase : 0 ≤ origin.base now.toInt) (hle : origin.base now.toInt ≤ 2 ^ 63 - 1) :
    origin.ComesTo clock (origin.base now.toInt + origin.offset.toInt) := by
  have hoffset := origin.offset.fits
  have hfits : Fits (origin.base now.toInt) := ⟨by omega, by omega⟩
  have hlow : -2 ^ 63 ≤ origin.base now.toInt + origin.offset.toInt := by
    unfold Fits at hoffset
    omega
  refine ⟨hlow, ?_, ?_⟩
  · intro hsum
    obtain ⟨start, hstart⟩ : ∃ start : Timestamp .tick,
        start.toInt = origin.base now.toInt + origin.offset.toInt :=
      Timestamp.exists_toInt_eq ⟨hlow, by omega⟩
    exact ⟨start, (resolve_eq_ok_iff hreads hnow).2 ⟨hfits, hstart⟩, hstart⟩
  · have hplace (start : Timestamp .tick) : origin.place? now = some start ↔
        start.toInt = origin.base now.toInt + origin.offset.toInt := by
      rw [place?_eq_some_iff, and_iff_right hfits]
    rw [resolve_eq_outOfRange_iff hreads hnow, Timestamp.eq_none_iff_not_fits hplace]
    unfold Fits
    omega

/-- Two clocks that are taken to one second resolve to one start. -/
lemma resolve_nextSecond_congr {offset : Duration .tick} (hnow : clock.ticks = .ok now)
    (hnow' : clock'.ticks = .ok now')
    (h : Timestamp.ceilSecond now.toInt = Timestamp.ceilSecond now'.toInt) :
    (nextSecond offset).resolve clock = (nextSecond offset).resolve clock' := by
  have hreads : (nextSecond offset).readsClock = true := rfl
  rw [resolve, resolve, if_pos hreads, if_pos hreads, hnow, hnow']
  simp only [resolveAt, place?, Timestamp.nextSecond?_congr h]

/-- What a clock shows, as far as an origin is concerned. -/
lemma exists_ticks_of_timestamp_eq_ok {t : Timestamp .nanosecond} (h : clock.timestamp = .ok t) :
    0 ≤ t.toInt ∧ ∃ now, clock.ticks = .ok now ∧ now.toInt = (t.toInt * 9).tdiv 100000 ∧
      0 ≤ now.toInt ∧ Timestamp.ceilSecond now.toInt ≤ 2 ^ 63 - 1 := by
  obtain ⟨hcount, hexact⟩ := Reading.timestamp_eq_ok_iff.1 h
  have hnonneg : 0 ≤ t.toInt := hexact ▸ Reading.exactNanos_nonneg hcount
  have hlast : t.toInt < 2 ^ 63 := t.fits.2
  have hticks : t.toTicks.toInt = (t.toInt * 9).tdiv 100000 := by
    rw [Timestamp.toInt_toTicks, Rate.exact_nanos_ticks]
  refine ⟨hnonneg, t.toTicks, Reading.ticks_eq_ok_iff.2 ⟨t, h, rfl⟩, hticks, ?_⟩
  rw [hticks, Int.tdiv_eq_ediv_of_nonneg (by omega), Timestamp.ceilSecond]
  omega

/-! ## The whole statement -/

open Timestamp in
/-- **Resolving an origin is exact.**  From a clock at `n` nanoseconds the present is the ticks of
`n`, truncated, and the next second is the least whole second not before those ticks, which always
exists; the offset is added to either, and only a sum beyond the last tick is refused.  In
nanoseconds the second is the one in whose window `n` lies: less than a tick past, or less than a
second ahead.  Clocks in one window resolve alike.  For any timestamp at all, negative ones included,
the next whole second is the least multiple of 90 000 ticks not below it. -/
theorem resolve_isExact :
    (∀ (clock : Reading) (t : Timestamp .nanosecond) (offset : Duration .tick),
      clock.timestamp = .ok t →
      (present offset).ComesTo clock ((t.toInt * 9).tdiv 100000 + offset.toInt) ∧
      ∃ k : ℤ, IsLeast {j | (t.toInt * 9).tdiv 100000 ≤ 90000 * j} k ∧
        (nextSecond offset).ComesTo clock (90000 * k + offset.toInt) ∧
        (∃ now second, clock.ticks = .ok now ∧ now.nextSecond? = some second ∧
          second.toInt = 90000 * k) ∧
        (∀ j, InWindow t.toInt j ↔ j = k) ∧
        9 * (t.toInt - k * 1000000000) < 100000 ∧ k * 1000000000 - t.toInt < 1000000000) ∧
    (∀ (clock clock' : Reading) (t t' : Timestamp .nanosecond) (k : ℤ) (offset : Duration .tick),
      clock.timestamp = .ok t → clock'.timestamp = .ok t' →
      InWindow t.toInt k → InWindow t'.toInt k →
      (nextSecond offset).resolve clock = (nextSecond offset).resolve clock') ∧
    (∀ t : Timestamp .tick, ∃ m, IsLeast {m | 90000 ∣ m ∧ t.toInt ≤ m} m ∧
      (m ≤ 2 ^ 63 - 1 → ∃ u, t.nextSecond? = some u ∧ u.toInt = m) ∧
      (t.nextSecond? = none ↔ 2 ^ 63 - 1 < m)) := by
  refine ⟨?_, ?_, ?_⟩
  · intro clock t offset h
    obtain ⟨hnonneg, now, hnow, hticks, hpresent, hsecond⟩ := exists_ticks_of_timestamp_eq_ok h
    have hahead := le_ceilSecond now.toInt
    have hwindow (j : ℤ) : InWindow t.toInt j ↔ j = -(-now.toInt / 90000) := by
      rw [hticks]
      exact inWindow_iff hnonneg
    have hpresentTo : (present offset).ComesTo clock (now.toInt + offset.toInt) :=
      comesTo_base_add_offset rfl hnow hpresent (hahead.trans hsecond)
    have hsecondTo : (nextSecond offset).ComesTo clock (ceilSecond now.toInt + offset.toInt) :=
      comesTo_base_add_offset rfl hnow (hpresent.trans hahead) hsecond
    obtain ⟨hlow, hup⟩ := (hwindow _).2 rfl
    rw [← hticks]
    refine ⟨hpresentTo, _, isLeast_seconds now.toInt, hsecondTo, ?_, hwindow, ?_, ?_⟩
    · obtain ⟨second, hnext, hint⟩ := exists_nextSecond? hsecond
      exact ⟨now, second, hnow, hnext, hint⟩
    · omega
    · omega
  · intro clock clock' t t' k offset h h' hk hk'
    obtain ⟨hnonneg, now, hnow, hticks, -⟩ := exists_ticks_of_timestamp_eq_ok h
    obtain ⟨hnonneg', now', hnow', hticks', -⟩ := exists_ticks_of_timestamp_eq_ok h'
    rw [inWindow_iff hnonneg, ← hticks] at hk
    rw [inWindow_iff hnonneg', ← hticks'] at hk'
    refine resolve_nextSecond_congr hnow hnow' ?_
    rw [ceilSecond, ceilSecond, ← hk, ← hk']
  · intro t
    exact ⟨_, isLeast_ceilSecond t.toInt, exists_nextSecond?, nextSecond?_eq_none_iff⟩

/-- Both ends of a window, on two different clocks: 11 112 nanoseconds after the epoch and 11 111
after the second that both are taken to.  An offset that leads one tick too far is refused. -/
theorem resolve_isExact_window_ends :
    (nextSecond 0).resolve ⟨.nanosecond, 11112⟩ =
      (nextSecond 0).resolve ⟨.picosecond, 1000011111999⟩ ∧
    (present ⟨Int64.maxValue⟩).resolve ⟨.nanosecond, 11112⟩ = .error .outOfRange := by
  have hfirst : (⟨.nanosecond, 11112⟩ : Reading).timestamp = .ok ⟨11112⟩ := rfl
  have hlast : (⟨.picosecond, 1000011111999⟩ : Reading).timestamp = .ok ⟨1000011111⟩ := rfl
  refine ⟨?_, ?_⟩
  · refine resolve_isExact.2.1 _ _ _ _ 1 0 hfirst hlast ?_ ?_
    · exact ⟨by decide, by decide⟩
    · exact ⟨by decide, by decide⟩
  · exact (resolve_isExact.1 _ _ ⟨Int64.maxValue⟩ hfirst).1.refused_iff.2 (by decide)

end Origin

end FrameTiming
