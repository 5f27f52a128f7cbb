import FrameTiming.Proofs.RoundTrip
import FrameTiming.Proofs.Unchecked
import Mathlib.Algebra.GCDMonoid.Nat

/-!
# Drift

A count that is written in nanoseconds and read back has been truncated toward zero twice, and
what comes back may be written in nanoseconds again.  This module follows a count through any
number of such trips.

* `period` — only every `period rate`-th count is a whole number of nanoseconds; nine for ticks.
* `drifted p k t` — where `t` stands after `k` trips: one unit nearer to zero for each of them,
  but never past the multiple of `p` it came from.
* `exact_there_and_back` — one trip over the integers is `drifted (period rate) 1`.
* `drifted_drifted` — trips add up, which carries the induction in `exists_trips?`.

**No trip is refused after the first.**  What comes back is no larger than what was sent, so the
nanoseconds that fitted once fit again: `exists_toNanos?`.
-/

namespace FrameTiming

/-- `k` trips in a row; one that is refused ends them. -/
def trips? {α : Type} (trip : α → Option α) : ℕ → α → Option α
  | 0, x => some x
  | k + 1, x => (trip x).bind (trips? trip k)

/-- A trip that is another one under a different name takes the same course. -/
lemma trips?_map {α β : Type} {trip : α → Option α} {trip' : β → Option β} (f : α → β)
    (hcomm : ∀ x, trip' (f x) = (trip x).map f) (k : ℕ) (x : α) :
    trips? trip' k (f x) = (trips? trip k x).map f := by
  induction k generalizing x with
  | zero => rfl
  | succ k ih =>
    rw [trips?, trips?, hcomm]
    cases trip x with
    | none => rfl
    | some y => simp [ih]

namespace Rate

/-! ## Trips over the integers -/

/-- The counts at `rate` units per second that are a whole number of nanoseconds are the
multiples of the period. -/
def period (rate : ℤ) : ℤ := rate / (Int.gcd rate 1000000000 : ℤ)

/-- A count after `k` trips through nanoseconds: it comes one unit nearer to zero with each, down
to a multiple of `p`. -/
def drifted (p : ℤ) (k : ℕ) (t : ℤ) : ℤ := t.sign * max (p * (|t| / p)) (|t| - k)

lemma period_pos {rate : ℤ} (h : 0 < rate) : 0 < period rate := by
  have hgcd : (0 : ℤ) < Int.gcd rate 1000000000 := by
    exact_mod_cast Int.gcd_pos_of_ne_zero_left _ h.ne'
  exact Int.ediv_pos_of_pos_of_dvd h hgcd.le (Int.gcd_dvd_left ..)

lemma dvd_mul_second_iff {rate : ℤ} (h : 0 < rate) (t : ℤ) :
    rate ∣ t * 1000000000 ↔ period rate ∣ t := by
  have hgcd : (Int.gcd rate 1000000000 : ℤ) ≠ 0 := by
    exact_mod_cast (Int.gcd_pos_of_ne_zero_left _ h.ne').ne'
  rw [period, Int.ediv_dvd_iff_dvd_mul (Int.gcd_dvd_left ..) hgcd, mul_comm, Int.coe_gcd,
    dvd_gcd_mul_iff_dvd_mul]

lemma drifted_neg (p : ℤ) (k : ℕ) (t : ℤ) : drifted p k (-t) = -drifted p k t := by
  simp [drifted]

lemma drifted_of_nonneg (p : ℤ) (k : ℕ) {t : ℤ} (ht : 0 ≤ t) :
    drifted p k t = max (p * (t / p)) (t - k) := by
  rw [drifted, abs_of_nonneg ht]
  rcases ht.eq_or_lt with rfl | hpos
  · simp
  · rw [Int.sign_eq_one_of_pos hpos, one_mul]

lemma drifted_zero {p : ℤ} (hp : 0 < p) (t : ℤ) : drifted p 0 t = t := by
  have hle : p * (|t| / p) ≤ |t| := Int.mul_ediv_self_le hp.ne'
  rw [drifted, Nat.cast_zero, sub_zero, max_eq_right hle, Int.sign_mul_abs]

/-- The multiple of `p` below a count does not change on the way down to it. -/
lemma ediv_eq_of_mul_ediv_le {p t x : ℤ} (hp : 0 < p) (hle : p * (t / p) ≤ x) (hxt : x ≤ t) :
    x / p = t / p := by
  apply le_antisymm (Int.ediv_le_ediv hp hxt)
  rw [Int.le_ediv_iff_mul_le hp, mul_comm]
  exact hle

/-- **Trips add up.** -/
lemma drifted_drifted {p : ℤ} (hp : 0 < p) (j k : ℕ) (t : ℤ) :
    drifted p j (drifted p k t) = drifted p (k + j) t := by
  induction t using Int.negInduction with
  | nat n =>
    have hn : (0 : ℤ) ≤ n := Int.natCast_nonneg n
    have hbase : 0 ≤ p * (n / p) := Int.mul_nonneg hp.le (Int.ediv_nonneg hn hp.le)
    have hle : p * (n / p) ≤ n := Int.mul_ediv_self_le hp.ne'
    rw [drifted_of_nonneg p k hn, drifted_of_nonneg p (k + j) hn,
      drifted_of_nonneg p j (hbase.trans (le_max_left ..)),
      ediv_eq_of_mul_ediv_le hp (le_max_left ..) (by omega)]
    push_cast
    omega
  | neg ih n => simp only [drifted_neg, ih]

/-- The first step: none for a multiple of `p`, otherwise one unit toward zero. -/
lemma drifted_one {p : ℤ} (hp : 0 < p) (t : ℤ) :
    drifted p 1 t = if p ∣ t then t else t - t.sign := by
  have hle : p * (|t| / p) ≤ |t| := Int.mul_ediv_self_le hp.ne'
  rw [drifted]
  split_ifs with hdvd
  · rw [Int.mul_ediv_cancel' ((dvd_abs p t).2 hdvd), max_eq_left (by omega), Int.sign_mul_abs]
  · have hne : p * (|t| / p) ≠ |t| := fun h => hdvd ((dvd_abs p t).1 ⟨_, h.symm⟩)
    rw [Nat.cast_one, max_eq_right (by omega), mul_sub, Int.sign_mul_abs, mul_one]

lemma drifted_one_eq_self_iff {p : ℤ} (hp : 0 < p) {t : ℤ} : drifted p 1 t = t ↔ p ∣ t := by
  rw [drifted_one hp]
  split_ifs with hdvd
  · exact iff_of_true rfl hdvd
  · refine iff_of_false (fun h => hdvd ?_) hdvd
    have hsign : t.sign = 0 := by omega
    rw [Int.sign_eq_zero_iff_zero.1 hsign]
    exact dvd_zero p

/-- However many trips, less than `p` is lost. -/
lemma fallsShort_drifted {p : ℤ} (hp : 0 < p) (k : ℕ) (t : ℤ) :
    FallsShort (p - 1) t (drifted p k t) := by
  induction t using Int.negInduction with
  | nat n =>
    have hn : (0 : ℤ) ≤ n := Int.natCast_nonneg n
    have hbase : 0 ≤ p * (n / p) := Int.mul_nonneg hp.le (Int.ediv_nonneg hn hp.le)
    have hle : p * (n / p) ≤ n := Int.mul_ediv_self_le hp.ne'
    have hlt : n < p * (n / p) + p := Int.lt_mul_ediv_self_add hp
    rw [drifted_of_nonneg p k hn]
    exact FallsShort.of_nonneg (by omega) (by omega) (by omega)
  | neg ih n =>
    rw [drifted_neg]
    exact (ih n).neg

lemma exact_there_and_back_of_nonneg {rate n : ℤ} (hpos : 0 < rate) (hle : rate ≤ 1000000000)
    (hn : 0 ≤ n) :
    exact (exact n rate 1000000000) 1000000000 rate = drifted (period rate) 1 n := by
  have hbase : period rate * (n / period rate) ≤ n := Int.mul_ediv_self_le (period_pos hpos).ne'
  rw [drifted_of_nonneg _ 1 hn]
  by_cases hdvd : period rate ∣ n
  · rw [convert_back_of_dvd (by decide) ((dvd_mul_second_iff hpos n).2 hdvd),
      Int.mul_ediv_cancel' hdvd]
    omega
  · have hsecond : (0 : ℤ) < 1000000000 := by decide
    obtain ⟨hm, hmle, hmlt⟩ := exact_bounds hn hpos hsecond.le
    obtain ⟨hb, hble, hblt⟩ := exact_bounds hm hsecond hpos.le
    set m := exact n rate 1000000000
    set b := exact m 1000000000 rate
    have hne : m * rate ≠ n * 1000000000 := fun h =>
      hdvd ((dvd_mul_second_iff hpos n).1 ⟨m, by rw [← h, mul_comm]⟩)
    have hrest : period rate * (n / period rate) ≠ n := fun h => hdvd ⟨_, h.symm⟩
    -- the nanoseconds miss the count by less than one unit, but do miss it
    have hmiss : n * 1000000000 < m * rate + rate := by linarith
    have hb' : b = n - 1 := by omega
    rw [hb']
    omega

/-- **One trip.**  A whole number of nanoseconds comes back as it was; any other count comes back
one unit nearer to zero, since a nanosecond is no longer than a unit. -/
lemma exact_there_and_back {rate : ℤ} (hpos : 0 < rate) (hle : rate ≤ 1000000000) (t : ℤ) :
    exact (exact t rate 1000000000) 1000000000 rate = drifted (period rate) 1 t := by
  induction t using Int.negInduction with
  | nat n => exact exact_there_and_back_of_nonneg hpos hle (Int.natCast_nonneg n)
  | neg ih n => rw [exact_neg, exact_neg, drifted_neg, ih]

/-! ## Trips of words -/

/-- A count written in nanoseconds and read back. -/
def throughNanos? (rate count : Int64) : Option Int64 :=
  (toNanos? count rate).map (fromNanos · rate)

/-- One trip of a word whose nanoseconds fit: what comes back is known, and its nanoseconds fit
again. -/
lemma throughNanos?_of_isSome {rate t : Int64} (hpos : 0 < rate.toInt)
    (hle : rate.toInt ≤ 1000000000) (ht : (toNanos? t rate).isSome) :
    ∃ u, throughNanos? rate t = some u ∧ u.toInt = drifted (period rate.toInt) 1 t.toInt ∧
      (toNanos? u rate).isSome := by
  obtain ⟨n, hn⟩ := Option.isSome_iff_exists.1 ht
  have hread := fromNanos?_eq_some_fromNanos n hpos hle
  obtain ⟨b, hb, -⟩ := exists_toNanos? hread
  refine ⟨fromNanos n rate, ?_, ?_, ?_⟩
  · rw [throughNanos?, hn]; rfl
  · rw [(fromNanos?_eq_some_iff.1 hread).2, (toNanos?_eq_some_iff.1 hn).2,
      exact_there_and_back hpos hle]
  · rw [hb]; rfl

/-- **Any number of trips.** -/
lemma exists_trips? {rate t : Int64} (hpos : 0 < rate.toInt) (hle : rate.toInt ≤ 1000000000)
    (ht : (toNanos? t rate).isSome) (k : ℕ) :
    ∃ u, trips? (throughNanos? rate) k t = some u ∧
      u.toInt = drifted (period rate.toInt) k t.toInt := by
  have hp := period_pos hpos
  induction k generalizing t with
  | zero => exact ⟨t, rfl, (drifted_zero hp _).symm⟩
  | succ k ih =>
    obtain ⟨u, hu, hone, hagain⟩ := throughNanos?_of_isSome hpos hle ht
    obtain ⟨w, hw, hrest⟩ := ih hagain
    refine ⟨w, by rw [trips?, hu]; exact hw, ?_⟩
    rw [hrest, hone, drifted_drifted hp, add_comm]

lemma period_ticks : period 90000 = 9 := by decide +kernel

end Rate

/-! ## Trips of ticks -/

/-- A duration in ticks, written in nanoseconds and read back. -/
def Duration.throughNanos? (d : Duration .tick) : Option (Duration .tick) :=
  d.toNanos?.map Duration.toTicks

/-- A timestamp in ticks, written in nanoseconds and read back. -/
def Timestamp.throughNanos? (t : Timestamp .tick) : Option (Timestamp .tick) :=
  t.toNanos?.map Timestamp.toTicks

lemma Duration.throughNanos?_mk (n : Int64) :
    Duration.throughNanos? ⟨n⟩ = (Rate.throughNanos? ticksPerSecond n).map Duration.mk := by
  simp [Duration.throughNanos?, Duration.toNanos?, Duration.nanoseconds?, Duration.ofCount?,
    Duration.toTicks, Rate.throughNanos?, Function.comp_def]

lemma Timestamp.throughNanos?_mk (n : Int64) :
    Timestamp.throughNanos? ⟨n⟩ = (Rate.throughNanos? ticksPerSecond n).map Timestamp.mk := by
  simp [Timestamp.throughNanos?, Timestamp.toNanos?, Timestamp.ofCount?, Timestamp.toTicks,
    Rate.throughNanos?, Function.comp_def]

namespace Rate

lemma exists_trips?_ticks {α : Type} {mk : Int64 → α} {trip : α → Option α}
    (htrip : ∀ n, trip (mk n) = (throughNanos? ticksPerSecond n).map mk) {n : Int64}
    (hn : (toNanos? n ticksPerSecond).isSome) (k : ℕ) :
    ∃ m, trips? trip k (mk n) = some (mk m) ∧ FallsShort 8 n.toInt m.toInt := by
  obtain ⟨m, hm, hdrift⟩ := exists_trips? (by decide) (by decide) hn k
  rw [toInt_ticksPerSecond, period_ticks] at hdrift
  refine ⟨m, ?_, ?_⟩
  · rw [trips?_map mk htrip, hm, Option.map_some]
  · rw [hdrift]
    exact fallsShort_drifted (p := 9) (by decide) k n.toInt

/-- A tick count comes back from its nanoseconds as it was when nine divides it, and only then. -/
lemma exact_ticks_there_and_back_eq_iff (t : ℤ) :
    exact (exact t 90000 1000000000) 1000000000 90000 = t ↔ 9 ∣ t := by
  rw [exact_there_and_back (by decide) (by decide), period_ticks]
  exact drifted_one_eq_self_iff (by decide)

/-- **What repeated conversion loses.**  At any rate of at most one unit for each nanosecond, a
count whose nanoseconds fit can be sent through them any number of times.  One trip takes one unit
off it toward zero, unless the count is a multiple of the period, and then nothing; after `k`
trips it stands at `drifted (period rate) k`.  Nine ticks make a period, so timestamps and
durations in ticks come back unchanged when nine divides them and only then, and no number of
conversions loses more than eight ticks. -/
theorem repeated_trips_drift :
    (∀ rate t : Int64, 0 < rate.toInt → rate.toInt ≤ 1000000000 → (toNanos? t rate).isSome →
      (∃ u, throughNanos? rate t = some u ∧
        u.toInt = if period rate.toInt ∣ t.toInt then t.toInt else t.toInt - t.toInt.sign) ∧
      ∀ k, ∃ u, trips? (throughNanos? rate) k t = some u ∧
        u.toInt = drifted (period rate.toInt) k t.toInt) ∧
    period ticksPerSecond.toInt = 9 ∧
    (∀ (t : Timestamp .tick) (u : Timestamp .nanosecond), t.toNanos? = some u →
      (u.toTicks = t ↔ 9 ∣ t.toInt)) ∧
    (∀ (d : Duration .tick) (e : Duration .nanosecond), d.toNanos? = some e →
      (e.toTicks = d ↔ 9 ∣ d.toInt)) ∧
    (∀ t : Timestamp .tick, t.toNanos?.isSome → ∀ k, ∃ u,
      trips? Timestamp.throughNanos? k t = some u ∧ FallsShort 8 t.toInt u.toInt) ∧
    (∀ d : Duration .tick, d.toNanos?.isSome → ∀ k, ∃ e,
      trips? Duration.throughNanos? k d = some e ∧ FallsShort 8 d.toInt e.toInt) := by
  refine ⟨?_, period_ticks, ?_, ?_, ?_, ?_⟩
  · intro rate t hpos hle ht
    refine ⟨?_, exists_trips? hpos hle ht⟩
    obtain ⟨u, hu, hone, -⟩ := throughNanos?_of_isSome hpos hle ht
    exact ⟨u, hu, hone.trans (drifted_one (period_pos hpos) _)⟩
  · intro t u h
    rw [← Timestamp.toInt_inj, Timestamp.toInt_toTicks, Timestamp.toNanos?_eq_some_iff.1 h]
    exact exact_ticks_there_and_back_eq_iff _
  · intro d e h
    rw [← Duration.toInt_inj, Duration.toInt_toTicks, Duration.toNanos?_eq_some_iff.1 h]
    exact exact_ticks_there_and_back_eq_iff _
  · rintro ⟨n⟩ hn k
    have hn' : (toNanos? n ticksPerSecond).isSome := by
      simpa [Timestamp.toNanos?, Timestamp.ofCount?] using hn
    obtain ⟨m, hm, hshort⟩ := exists_trips?_ticks Timestamp.throughNanos?_mk hn' k
    exact ⟨⟨m⟩, hm, hshort⟩
  · rintro ⟨n⟩ hn k
    have hn' : (toNanos? n ticksPerSecond).isSome := by
      simpa [Duration.toNanos?, Duration.nanoseconds?, Duration.ofCount?] using hn
    obtain ⟨m, hm, hshort⟩ := exists_trips?_ticks Duration.throughNanos?_mk hn' k
    exact ⟨⟨m⟩, hm, hshort⟩

/-- The least tick count with nanoseconds lies six ticks below a multiple of nine: seven trips
bring it there, and the seventh loses nothing.  As a timestamp it does not come back from its
nanoseconds unchanged. -/
theorem repeated_trips_drift_least_tick :
    (toNanos? (-830103483316929) ticksPerSecond).isSome ∧
    (∃ u, trips? (throughNanos? ticksPerSecond) 7 (-830103483316929) = some u ∧
      u.toInt = -830103483316923) ∧
    (⟨-830103483316929⟩ : Timestamp .tick).toNanos? = some ⟨-9223372036854766666⟩ ∧
    (⟨-9223372036854766666⟩ : Timestamp .nanosecond).toTicks ≠ ⟨-830103483316929⟩ := by
  have h : (toNanos? (-830103483316929) ticksPerSecond).isSome := by decide
  have ht : (⟨-830103483316929⟩ : Timestamp .tick).toNanos? = some ⟨-9223372036854766666⟩ := by
    decide
  refine ⟨h, ?_, ht, ?_⟩
  · obtain ⟨u, hu, hdrift⟩ := (repeated_trips_drift.1 ticksPerSecond (-830103483316929)
      (by decide) (by decide) h).2 7
    exact ⟨u, hu, hdrift.trans (by decide +kernel)⟩
  · exact mt (repeated_trips_drift.2.2.1 _ _ ht).1 (by decide)

end Rate

end FrameTiming
