import FrameTiming.Proofs.ClockReading
import FrameTiming.Proofs.RoundTrip

/-!
# The present, or a broken clock

A clock is asked about twice.  Its sign is looked at in its own unit, its range only after the
conversion to nanoseconds, which truncates.  This module settles how the two questions divide the
readings, and what can be relied on once a clock has passed them.

* `before_or_beyond_or_sound` — every reading is of one of three kinds.
* `exists_backwards_iff`, `exists_unfit_iff`, `exists_timestamp_iff` — the answer to each of them,
  the faults told by what they report.
* `floorSeconds_eq_floor`, `fits_floor_exactSeconds` — the seconds that a fault reports.
* `timestamp_mono`, `ticks_mono` — a clock that goes forward never takes a timestamp back.
* `remaining_eq_none_iff`, `exists_remaining_iff` — the time left until a deadline.

**Only the far past is out of reach.**  The present is not before the epoch, so the time that is
left cannot exceed the deadline itself.  It may fall below the range, but not for a deadline at
or after the epoch.
-/

namespace FrameTiming

namespace Timestamp

/-- A timestamp that is known by an integer exists as far as the integer fits. -/
lemma eq_none_iff_not_fits {b : Timebase} {n : ℤ} {o : Option (Timestamp b)}
    (h : ∀ t, o = some t ↔ t.toInt = n) : o = none ↔ ¬ Fits n := by
  cases o with
  | none =>
    refine iff_of_true rfl fun hfits => ?_
    obtain ⟨t, ht⟩ : ∃ t : Timestamp b, t.toInt = n := exists_toInt_eq hfits
    cases (h t).2 ht
  | some t =>
    refine iff_of_false (by simp) (not_not.2 ?_)
    rw [← (h t).1 rfl]
    exact t.fits

end Timestamp

namespace Reading

variable {r r' : Reading}

/-! ## The three answers -/

/-- A clock that is not broken: it shows a time from the epoch on that nanoseconds can express. -/
structure Sound (r : Reading) : Prop where
  nonneg : 0 ≤ r.count.toInt
  exactNanos_le : r.exactNanos ≤ 2 ^ 63 - 1

lemma exactNanos_nonneg {r : Reading} (h : 0 ≤ r.count.toInt) : 0 ≤ r.exactNanos := by
  have hseconds := Int.mul_nonneg h r.resolution.secondsPerUnit_pos.le
  exact (Rate.exact_bounds hseconds r.resolution.unitsPerSecond_pos (by decide)).1

lemma before_or_beyond_or_sound (r : Reading) :
    r.count.toInt < 0 ∨ (0 ≤ r.count.toInt ∧ 2 ^ 63 - 1 < r.exactNanos) ∨ r.Sound := by
  rcases lt_or_ge r.count.toInt 0 with hneg | hnonneg
  · exact Or.inl hneg
  · rcases lt_or_ge (2 ^ 63 - 1) r.exactNanos with hlt | hle
    · exact Or.inr (Or.inl ⟨hnonneg, hlt⟩)
    · exact Or.inr (Or.inr ⟨hnonneg, hle⟩)

lemma timestamp_of_neg (h : r.count.toInt < 0) :
    r.timestamp = .error (.beforeEpoch r.floorSeconds) := by
  rw [timestamp, if_pos (Int64.lt_iff_toInt_lt.2 h)]

lemma timestamp_of_lt (hnonneg : 0 ≤ r.count.toInt) (hlt : 2 ^ 63 - 1 < r.exactNanos) :
    r.timestamp = .error (.outOfRange r.floorSeconds) := by
  have hcount : ¬ r.count < 0 := by
    rw [Int64.lt_iff_toInt_lt, Int64.toInt_zero]
    omega
  have hrefused : r.nanos? = none := by
    rw [nanos?_eq_ofInt?, Word.ofInt?_eq_none_iff]
    unfold Fits
    omega
  rw [timestamp, if_neg hcount, timestamp?, hrefused]
  rfl

lemma Sound.exists_timestamp_eq_ok (h : r.Sound) :
    ∃ t, r.timestamp = .ok t ∧ t.toInt = r.exactNanos := by
  have hnonneg := exactNanos_nonneg h.nonneg
  have hle := h.exactNanos_le
  obtain ⟨t, ht⟩ : ∃ t : Timestamp .nanosecond, t.toInt = r.exactNanos :=
    Timestamp.exists_toInt_eq ⟨by omega, by omega⟩
  exact ⟨t, timestamp_eq_ok_iff.2 ⟨h.nonneg, ht⟩, ht⟩

lemma sound_of_timestamp_eq_ok {t : Timestamp .nanosecond} (h : r.timestamp = .ok t) :
    r.Sound := by
  obtain ⟨hnonneg, ht⟩ := timestamp_eq_ok_iff.1 h
  have hfits := t.fits
  refine ⟨hnonneg, ?_⟩
  rw [← ht]
  unfold Fits at hfits
  omega

/-- The first fault depends on the sign of the count alone, however small a part of a second it
stands for. -/
lemma timestamp_eq_beforeEpoch_iff {s : ℤ} :
    r.timestamp = .error (.beforeEpoch s) ↔ r.count.toInt < 0 ∧ s = r.floorSeconds := by
  rcases r.before_or_beyond_or_sound with hneg | ⟨hnonneg, hlt⟩ | hsound
  · simp [timestamp_of_neg hneg, hneg, eq_comm]
  · simp [timestamp_of_lt hnonneg hlt, not_lt.2 hnonneg]
  · obtain ⟨t, ht, -⟩ := hsound.exists_timestamp_eq_ok
    simp [ht, not_lt.2 hsound.nonneg]

lemma timestamp_eq_outOfRange_iff {s : ℤ} :
    r.timestamp = .error (.outOfRange s) ↔
      (0 ≤ r.count.toInt ∧ 2 ^ 63 - 1 < r.exactNanos) ∧ s = r.floorSeconds := by
  rcases r.before_or_beyond_or_sound with hneg | ⟨hnonneg, hlt⟩ | hsound
  · simp [timestamp_of_neg hneg, not_le.2 hneg]
  · simp only [timestamp_of_lt hnonneg hlt, hnonneg, hlt, and_self, true_and,
      Except.error.injEq, Fault.outOfRange.injEq, eq_comm]
  · obtain ⟨t, ht, -⟩ := hsound.exists_timestamp_eq_ok
    simp only [ht, reduceCtorEq, not_lt.2 hsound.exactNanos_le, and_false, false_and]

/-- Which of the two faults it is, told by what is reported. -/
lemma Fault.reason_eq_iff {f : Fault} :
    (f.reason = "time went backwards past the epoch" ↔ ∃ s, f = .beforeEpoch s) ∧
      (f.reason = "timestamp does not fit 64-bit nanoseconds" ↔ ∃ s, f = .outOfRange s) := by
  cases f <;> simp [Fault.reason]

lemma exists_backwards_iff :
    (∃ f, r.timestamp = .error f ∧ f.reason = "time went backwards past the epoch") ↔
      r.count.toInt < 0 := by
  constructor
  · rintro ⟨f, hf, hreason⟩
    obtain ⟨s, rfl⟩ := Fault.reason_eq_iff.1.1 hreason
    exact (timestamp_eq_beforeEpoch_iff.1 hf).1
  · intro hneg
    exact ⟨_, timestamp_of_neg hneg, rfl⟩

lemma exists_unfit_iff :
    (∃ f, r.timestamp = .error f ∧ f.reason = "timestamp does not fit 64-bit nanoseconds") ↔
      0 ≤ r.count.toInt ∧ 2 ^ 63 - 1 < r.exactNanos := by
  constructor
  · rintro ⟨f, hf, hreason⟩
    obtain ⟨s, rfl⟩ := Fault.reason_eq_iff.2.1 hreason
    exact (timestamp_eq_outOfRange_iff.1 hf).1
  · rintro ⟨hnonneg, hlt⟩
    exact ⟨_, timestamp_of_lt hnonneg hlt, rfl⟩

lemma exists_timestamp_iff :
    (∃ t, r.timestamp = .ok t) ↔ 0 ≤ r.count.toInt ∧ r.exactNanos ≤ 2 ^ 63 - 1 := by
  constructor
  · rintro ⟨t, ht⟩
    have hsound := sound_of_timestamp_eq_ok ht
    exact ⟨hsound.nonneg, hsound.exactNanos_le⟩
  · rintro ⟨hnonneg, hle⟩
    obtain ⟨t, ht, -⟩ := Sound.exists_timestamp_eq_ok ⟨hnonneg, hle⟩
    exact ⟨t, ht⟩

/-! ## The seconds in a fault -/

/-- The seconds that a clock shows, parts of a second included. -/
def exactSeconds (r : Reading) : ℚ :=
  (r.count.toInt * r.resolution.secondsPerUnit.toInt : ℤ) / r.resolution.unitsPerSecond.toInt

lemma floorSeconds_eq_floor (r : Reading) : r.floorSeconds = ⌊r.exactSeconds⌋ := by
  have hpos := r.resolution.unitsPerSecond_pos
  rw [floorSeconds, exactSeconds]
  generalize r.resolution.unitsPerSecond.toInt = units at *
  lift units to ℕ using hpos.le
  exact (Rat.floor_intCast_div_natCast _ _).symm

/-- The floor stays in a word when the seconds do. -/
lemma fits_floor_exactSeconds
    (h : Fits (r.count.toInt * r.resolution.secondsPerUnit.toInt)) : Fits ⌊r.exactSeconds⌋ := by
  have hpos := r.resolution.unitsPerSecond_pos
  obtain ⟨hlow, hup⟩ := h
  rw [← floorSeconds_eq_floor, floorSeconds]
  constructor
  · rw [Int.le_ediv_iff_mul_le hpos]
    omega
  · rw [Int.ediv_lt_iff_lt_mul hpos]
    omega

lemma seconds_of_timestamp_eq_error {f : Fault} (h : r.timestamp = .error f) :
    f.seconds = ⌊r.exactSeconds⌋ := by
  rw [← floorSeconds_eq_floor]
  cases f with
  | beforeEpoch s => exact (timestamp_eq_beforeEpoch_iff.1 h).2
  | outOfRange s => exact (timestamp_eq_outOfRange_iff.1 h).2

/-! ## Later readings -/

lemma exactNanos_mono (hres : r.resolution = r'.resolution) (hle : r.count ≤ r'.count) :
    r.exactNanos ≤ r'.exactNanos := by
  have hseconds := r'.resolution.secondsPerUnit_pos
  rw [exactNanos, exactNanos, hres]
  refine Rate.exact_mono r'.resolution.unitsPerSecond_pos (by decide) ?_
  exact Int.mul_le_mul_of_nonneg_right (Int64.le_iff_toInt_le.1 hle) hseconds.le

/-- **A later reading is not an earlier timestamp.** -/
lemma timestamp_mono {t t' : Timestamp .nanosecond} (hres : r.resolution = r'.resolution)
    (hle : r.count ≤ r'.count) (ht : r.timestamp = .ok t) (ht' : r'.timestamp = .ok t') :
    t ≤ t' := by
  rw [Timestamp.le_iff_toInt_le, (timestamp_eq_ok_iff.1 ht).2, (timestamp_eq_ok_iff.1 ht').2]
  exact exactNanos_mono hres hle

lemma ticks_eq_ok_iff {now : Timestamp .tick} :
    r.ticks = .ok now ↔ ∃ t, r.timestamp = .ok t ∧ t.toTicks = now := by
  rw [ticks]
  cases r.timestamp <;> simp [Except.map]

lemma ticks_mono {now now' : Timestamp .tick} (hres : r.resolution = r'.resolution)
    (hle : r.count ≤ r'.count) (hnow : r.ticks = .ok now) (hnow' : r'.ticks = .ok now') :
    now ≤ now' := by
  obtain ⟨t, ht, rfl⟩ := ticks_eq_ok_iff.1 hnow
  obtain ⟨t', ht', rfl⟩ := ticks_eq_ok_iff.1 hnow'
  exact Timestamp.toTicks_mono (timestamp_mono hres hle ht ht')

/-! ## The time that is left -/

section Remaining

variable {t deadline : Timestamp .nanosecond}

lemma remaining_of_timestamp_eq_ok (h : r.timestamp = .ok t) :
    r.remaining deadline = .ok (deadline.since? t) := by
  rw [remaining, h]
  rfl

/-- The present is not negative, so the time left cannot exceed the range. -/
lemma remaining_lt (h : r.timestamp = .ok t) : deadline.toInt - t.toInt < 2 ^ 63 := by
  obtain ⟨hnonneg, ht⟩ := timestamp_eq_ok_iff.1 h
  have hpresent := exactNanos_nonneg hnonneg
  have hfits := deadline.fits
  unfold Fits at hfits
  omega

lemma remaining_eq_none_iff (h : r.timestamp = .ok t) :
    r.remaining deadline = .ok none ↔ deadline.toInt - t.toInt < -2 ^ 63 := by
  have hlt : deadline.toInt - t.toInt < 2 ^ 63 := remaining_lt h
  rw [remaining_of_timestamp_eq_ok h, Except.ok.injEq, Timestamp.since?_eq_none_iff]
  unfold Fits
  omega

lemma exists_remaining_iff (h : r.timestamp = .ok t) :
    (∃ d, r.remaining deadline = .ok (some d) ∧ d.toInt = deadline.toInt - t.toInt) ↔
      -2 ^ 63 ≤ deadline.toInt - t.toInt := by
  rw [← not_lt, ← remaining_eq_none_iff h, remaining_of_timestamp_eq_ok h]
  cases hsince : deadline.since? t with
  | none => simp
  | some d => simp [Timestamp.since?_eq_some_iff.1 hsince]

/-- A deadline at or after the epoch always leaves a time that can be expressed. -/
lemma exists_remaining_of_nonneg (h : r.timestamp = .ok t) (hdeadline : 0 ≤ deadline.toInt) :
    ∃ d, r.remaining deadline = .ok (some d) ∧ d.toInt = deadline.toInt - t.toInt := by
  have hlast : t.toInt < 2 ^ 63 := t.fits.2
  exact (exists_remaining_iff h).2 (by omega)

end Remaining

/-! ## The whole statement -/

/-- **Every reading is a timestamp or one of two faults.**  A negative count is a clock before the
epoch, whatever part of a second it stands for; otherwise nanoseconds beyond the range are a clock
that does not fit; every other clock has its truncated nanoseconds as the timestamp, at or after the
epoch.  A fault reports the seconds, rounded down.  A clock that goes forward never takes a
timestamp back.  The time left until a deadline is the difference, and is only refused below the
range, so never for a deadline at or after the epoch, the last point in time included. -/
theorem timestamp_partitions_readings :
    (∀ r : Reading,
      ((∃ f, r.timestamp = .error f ∧ f.reason = "time went backwards past the epoch") ↔
        r.count.toInt < 0) ∧
      ((∃ f, r.timestamp = .error f ∧ f.reason = "timestamp does not fit 64-bit nanoseconds") ↔
        0 ≤ r.count.toInt ∧ 2 ^ 63 - 1 < r.exactNanos) ∧
      ((∃ t, r.timestamp = .ok t) ↔ 0 ≤ r.count.toInt ∧ r.exactNanos ≤ 2 ^ 63 - 1) ∧
      (∀ t, r.timestamp = .ok t → t.toInt = r.exactNanos ∧ 0 ≤ t.toInt) ∧
      (∀ f, r.timestamp = .error f → f.seconds = ⌊r.exactSeconds⌋) ∧
      (Fits (r.count.toInt * r.resolution.secondsPerUnit.toInt) → Fits ⌊r.exactSeconds⌋)) ∧
    (∀ r r' : Reading, r.resolution = r'.resolution → r.count ≤ r'.count →
      (∀ t t', r.timestamp = .ok t → r'.timestamp = .ok t' → t ≤ t') ∧
      (∀ now now', r.ticks = .ok now → r'.ticks = .ok now' → now ≤ now')) ∧
    (∀ (r : Reading) (t : Timestamp .nanosecond), r.timestamp = .ok t →
      (∀ deadline : Timestamp .nanosecond,
        ((∃ d, r.remaining deadline = .ok (some d) ∧ d.toInt = deadline.toInt - t.toInt) ↔
          -2 ^ 63 ≤ deadline.toInt - t.toInt) ∧
        (r.remaining deadline = .ok none ↔ deadline.toInt - t.toInt < -2 ^ 63) ∧
        (0 ≤ deadline.toInt → ∃ d, r.remaining deadline = .ok (some d))) ∧
      ∃ d, r.remaining .latest = .ok (some d) ∧ d.toInt = 2 ^ 63 - 1 - t.toInt) := by
  refine ⟨?_, ?_, ?_⟩
  · intro r
    refine ⟨exists_backwards_iff, exists_unfit_iff, exists_timestamp_iff, fun t ht => ?_,
      fun f => seconds_of_timestamp_eq_error, fits_floor_exactSeconds⟩
    obtain ⟨hnonneg, heq⟩ := timestamp_eq_ok_iff.1 ht
    exact ⟨heq, heq ▸ exactNanos_nonneg hnonneg⟩
  · intro r r' hres hle
    exact ⟨fun t t' => timestamp_mono hres hle, fun now now' => ticks_mono hres hle⟩
  · intro r t ht
    refine ⟨fun deadline => ?_, exists_remaining_of_nonneg ht (by decide)⟩
    refine ⟨exists_remaining_iff ht, remaining_eq_none_iff ht, fun hdeadline => ?_⟩
    obtain ⟨d, hd, -⟩ := exists_remaining_of_nonneg ht hdeadline
    exact ⟨d, hd⟩

/-- A clock at the last tick that nanoseconds can express: it is not before the tick in front of it,
the least deadline is too long past, and the last one is 9141 nanoseconds away.  A clock that is an
hour before the epoch reports a word. -/
theorem timestamp_partitions_readings_last_tick :
    (⟨9223372036854755555⟩ : Timestamp .nanosecond) ≤ ⟨9223372036854766666⟩ ∧
    (⟨.tick, 830103483316929⟩ : Reading).remaining ⟨Int64.minValue⟩ = .ok none ∧
    (∃ d, (⟨.tick, 830103483316929⟩ : Reading).remaining .latest = .ok (some d) ∧
      d.toInt = 9141) ∧
    Fits ⌊(⟨.hour, -1⟩ : Reading).exactSeconds⌋ := by
  have hbefore : (⟨.tick, 830103483316928⟩ : Reading).timestamp = .ok ⟨9223372036854755555⟩ := rfl
  have hlast : (⟨.tick, 830103483316929⟩ : Reading).timestamp = .ok ⟨9223372036854766666⟩ := rfl
  obtain ⟨hpartition, hlater, hleft⟩ := timestamp_partitions_readings
  obtain ⟨hdeadline, hlatest⟩ := hleft _ _ hlast
  have hforward := (hlater ⟨.tick, 830103483316928⟩ ⟨.tick, 830103483316929⟩ rfl (by decide)).1
  refine ⟨hforward _ _ hbefore hlast, ?_, hlatest, ?_⟩
  · exact (hdeadline ⟨Int64.minValue⟩).2.1.2 (by decide)
  · exact (hpartition ⟨.hour, -1⟩).2.2.2.2.2 (by decide)

end Reading

end FrameTiming
