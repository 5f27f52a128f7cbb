import FrameTiming.Proofs.Conversion
import FrameTiming.Timestamp
import Mathlib.Data.Rat.Floor
import Mathlib.Tactic.Linarith

/-!
# There and back

A count that is converted to another rate and back has been truncated toward zero twice.  This
module measures what is lost.

* `FallsShort k v b` — the count `b` came out where `v` went in: it never overshoots `v`, never
  changes sign, and misses `v` by at most `k`.
* `fallsShort_convert_back` — the loss is at most one unit of the other rate, rounded up, for
  every pair of rates; `convert_back_of_dvd` — there is none for a whole number of those units.
* `fallsShort_ticks` — between nanoseconds and ticks it is at most 11 111, one less than the
  general bound.

**The sharper bound.**  A tick is `100000 / 9` nanoseconds.  With `r` the rest of the first
division and `s` that of the second, the loss is `(r + s) / 9`, where `r` stays below 100 000 and
`s` below 9.

**The way back always exists.**  The result of a round trip is no larger than the count it
started from, so it fits a word whenever that count did.
-/

namespace FrameTiming.Rate

/-! ## Falling short -/

/-- `b` falls short of `v`: it has lost at most `k` toward zero and nothing else. -/
structure FallsShort (k v b : ℤ) : Prop where
  sign : b = 0 ∨ b.sign = v.sign
  abs_le : |b| ≤ |v|
  abs_sub_le : |v| - |b| ≤ k

namespace FallsShort

variable {k v b : ℤ}

lemma of_nonneg (hb : 0 ≤ b) (hle : b ≤ v) (hk : v - b ≤ k) : FallsShort k v b := by
  have hv : 0 ≤ v := hb.trans hle
  refine ⟨?_, ?_, ?_⟩
  · rcases hb.eq_or_lt with h | h
    · exact Or.inl h.symm
    · right
      rw [Int.sign_eq_one_of_pos h, Int.sign_eq_one_of_pos (h.trans_le hle)]
  · rwa [abs_of_nonneg hb, abs_of_nonneg hv]
  · rwa [abs_of_nonneg hb, abs_of_nonneg hv]

lemma neg (h : FallsShort k v b) : FallsShort k (-v) (-b) := by
  obtain ⟨hsign, hle, hk⟩ := h
  refine ⟨?_, ?_, ?_⟩
  · simpa using hsign
  · simpa using hle
  · simpa using hk

/-- Whatever falls short of a word is a word. -/
lemma fits (h : FallsShort k v b) (hv : Fits v) : Fits b := by
  obtain ⟨hsign, hle, -⟩ := h
  unfold Fits at *
  rcases hsign with rfl | hsign
  · omega
  · rcases lt_trichotomy v 0 with hneg | rfl | hpos
    · rw [Int.sign_eq_neg_one_of_neg hneg, Int.sign_eq_neg_one_iff_neg] at hsign
      rw [abs_of_neg hsign, abs_of_neg hneg] at hle
      omega
    · simp only [Int.sign_zero, Int.sign_eq_zero_iff_zero] at hsign
      omega
    · rw [Int.sign_eq_one_of_pos hpos, Int.sign_eq_one_iff_pos] at hsign
      rw [abs_of_pos hsign, abs_of_pos hpos] at hle
      omega

end FallsShort

/-! ## Any pair of rates -/

/-- What truncation does to a count that is not negative, without the division. -/
lemma exact_bounds {v src dst : ℤ} (hv : 0 ≤ v) (hsrc : 0 < src) (hdst : 0 ≤ dst) :
    0 ≤ exact v src dst ∧ exact v src dst * src ≤ v * dst ∧
      v * dst < (exact v src dst + 1) * src := by
  have hprod : 0 ≤ v * dst := Int.mul_nonneg hv hdst
  rw [exact, Int.tdiv_eq_ediv_of_nonneg hprod]
  exact ⟨Int.ediv_nonneg hprod hsrc.le, Int.ediv_mul_le _ hsrc.ne',
    Int.lt_ediv_add_one_mul_self _ hsrc⟩

lemma convert_back_of_nonneg {v src dst : ℤ} (hv : 0 ≤ v) (hsrc : 0 < src) (hdst : 0 < dst) :
    FallsShort ⌈(src : ℚ) / dst⌉ v (exact (exact v src dst) dst src) := by
  obtain ⟨ht, htle, htlt⟩ := exact_bounds hv hsrc hdst.le
  obtain ⟨hb, hble, hblt⟩ := exact_bounds ht hdst hsrc.le
  set t := exact v src dst
  set b := exact t dst src
  refine FallsShort.of_nonneg hb ?_ ?_
  · have : b * dst ≤ v * dst := hble.trans htle
    exact Int.le_of_mul_le_mul_right this hdst
  · -- a loss of one more than the bound would take more than one unit away
    have hloss : (v - b - 1) * dst < src := by linarith
    have hrat : ((v - b - 1 : ℤ) : ℚ) < src / dst := by
      rw [lt_div_iff₀ (by exact_mod_cast hdst)]
      exact_mod_cast hloss
    have := Int.lt_ceil.2 hrat
    omega

/-- **A round trip loses at most one unit of the other rate**, rounded up. -/
lemma fallsShort_convert_back {src dst : ℤ} (v : ℤ) (hsrc : 0 < src) (hdst : 0 < dst) :
    FallsShort ⌈(src : ℚ) / dst⌉ v (exact (exact v src dst) dst src) := by
  rcases le_total 0 v with hv | hv
  · exact convert_back_of_nonneg hv hsrc hdst
  · have h := (convert_back_of_nonneg (v := -v) (by omega) hsrc hdst).neg
    rwa [exact_neg, exact_neg, neg_neg, neg_neg] at h

/-- A whole number of units of the other rate comes back as it was. -/
lemma convert_back_of_dvd {v src dst : ℤ} (hdst : 0 < dst) (h : src ∣ v * dst) :
    exact (exact v src dst) dst src = v := by
  have hback : exact v src dst * src = v * dst := Int.tdiv_mul_cancel h
  rw [exact, hback, Int.mul_tdiv_cancel _ hdst.ne']

/-! ## Nanoseconds and ticks -/

/-- Nanoseconds to ticks in lowest terms. -/
lemma exact_nanos_ticks (n : ℤ) : exact n 1000000000 90000 = (n * 9).tdiv 100000 := by
  rw [exact, show n * 90000 = n * 9 * 10000 by ring, show (1000000000 : ℤ) = 100000 * 10000 by rfl,
    Int.mul_tdiv_mul_of_pos_left _ _ (by decide)]

/-- Ticks to nanoseconds in lowest terms. -/
lemma exact_ticks_nanos (t : ℤ) : exact t 90000 1000000000 = (t * 100000).tdiv 9 := by
  rw [exact, show t * 1000000000 = t * 100000 * 10000 by ring, show (90000 : ℤ) = 9 * 10000 by rfl,
    Int.mul_tdiv_mul_of_pos_left _ _ (by decide)]

/-- **Through ticks and back a nanosecond count loses at most 11 111.** -/
lemma fallsShort_ticks (n : ℤ) :
    FallsShort 11111 n (exact (exact n 1000000000 90000) 90000 1000000000) := by
  have hnonneg : ∀ m : ℤ, 0 ≤ m →
      FallsShort 11111 m (exact (exact m 1000000000 90000) 90000 1000000000) := by
    intro m hm
    have ht : exact m 1000000000 90000 = m * 9 / 100000 := by
      rw [exact_nanos_ticks, Int.tdiv_eq_ediv_of_nonneg (by omega)]
    rw [ht, exact_ticks_nanos, Int.tdiv_eq_ediv_of_nonneg (by omega)]
    exact FallsShort.of_nonneg (by omega) (by omega) (by omega)
  rcases le_total 0 n with hn | hn
  · exact hnonneg n hn
  · have h := (hnonneg (-n) (by omega)).neg
    rwa [exact_neg, exact_neg, neg_neg, neg_neg] at h

/-! ## Words -/

/-- The way back from a conversion always exists. -/
lemma exists_toNanos? {v ts t : Int64} (h : fromNanos? v ts = some t) :
    ∃ b, toNanos? t ts = some b ∧
      b.toInt = exact (exact v.toInt 1000000000 ts.toInt) ts.toInt 1000000000 := by
  obtain ⟨hts, ht⟩ := fromNanos?_eq_some_iff.1 h
  have hsecond : (0 : ℤ) < 1000000000 := by decide
  have hshort := fallsShort_convert_back v.toInt hsecond hts
  have hfits := hshort.fits (fits_toInt v)
  rw [← ht] at hfits ⊢
  exact ⟨_, toNanos?_eq_some_iff.2 ⟨hts, Word.toInt_ofInt hfits⟩, Word.toInt_ofInt hfits⟩

/-- A nanosecond count through ticks and back. -/
lemma exists_toNanos?_ticks (n : Int64) :
    ∃ m, toNanos? (fromNanos n ticksPerSecond) ticksPerSecond = some m ∧
      FallsShort 11111 n.toInt m.toInt ∧ (100000 ∣ n.toInt → m = n) := by
  have hshort := fallsShort_ticks n.toInt
  have hfits := hshort.fits (fits_toInt n)
  refine ⟨Int64.ofInt (exact (exact n.toInt 1000000000 90000) 90000 1000000000), ?_, ?_, ?_⟩
  · rw [toNanos?_eq_some_iff, Duration.toInt_fromNanos_ticksPerSecond, Word.toInt_ofInt hfits]
    exact ⟨by decide, rfl⟩
  · rwa [Word.toInt_ofInt hfits]
  · intro hdvd
    have hback : exact (exact n.toInt 1000000000 90000) 90000 1000000000 = n.toInt :=
      convert_back_of_dvd (by decide) (by omega)
    rw [hback, Int64.ofInt_toInt]

/-- **What a round trip loses.**  A nanosecond count that can be written in another timescale can
be read back; it has lost at most one unit of that timescale, rounded up, toward zero, and nothing
when it was a whole number of units.  Through ticks every timestamp and every duration comes back,
with a loss of at most 11 111 nanoseconds, which is attained, and of none for a multiple of
100 000. -/
theorem nanos_round_trip_fallsShort :
    (∀ v ts t : Int64, fromNanos? v ts = some t →
      ∃ b, toNanos? t ts = some b ∧
        FallsShort ⌈(1000000000 : ℚ) / ts.toInt⌉ v.toInt b.toInt ∧
        (1000000000 ∣ v.toInt * ts.toInt → b = v)) ∧
    (∀ x : Timestamp .nanosecond, ∃ y, x.toTicks.toNanos? = some y ∧
      FallsShort 11111 x.toInt y.toInt ∧ (100000 ∣ x.toInt → y = x)) ∧
    (∃ x y : Timestamp .nanosecond, x.toTicks.toNanos? = some y ∧
      |x.toInt| - |y.toInt| = 11111) ∧
    (∀ d : Duration .nanosecond, ∃ e, d.toTicks.toNanos? = some e ∧
      FallsShort 11111 d.toInt e.toInt ∧ (100000 ∣ d.toInt → e = d)) ∧
    (∃ d e : Duration .nanosecond, d.toTicks.toNanos? = some e ∧
      |d.toInt| - |e.toInt| = 11111) := by
  refine ⟨?_, ?_, ⟨⟨11111⟩, ⟨0⟩, by decide, by decide⟩, ?_, ⟨⟨11111⟩, ⟨0⟩, by decide, by decide⟩⟩
  · intro v ts t h
    obtain ⟨hts, -⟩ := fromNanos?_eq_some_iff.1 h
    obtain ⟨b, hb, hexact⟩ := exists_toNanos? h
    refine ⟨b, hb, ?_, ?_⟩
    · have hsecond : (0 : ℤ) < 1000000000 := by decide
      rw [hexact]
      exact_mod_cast fallsShort_convert_back v.toInt hsecond hts
    · intro hdvd
      rw [← Int64.toInt_inj, hexact, convert_back_of_dvd hts hdvd]
  · rintro ⟨n⟩
    obtain ⟨m, hm, hshort, hdvd⟩ := exists_toNanos?_ticks n
    refine ⟨⟨m⟩, Timestamp.ofCount?_eq_some_iff.2 hm, hshort, ?_⟩
    intro h
    rw [hdvd h]
  · rintro ⟨n⟩
    obtain ⟨m, hm, hshort, hdvd⟩ := exists_toNanos?_ticks n
    refine ⟨⟨m⟩, Duration.ofCount?_eq_some_iff.2 hm, hshort, ?_⟩
    intro h
    rw [hdvd h]

/-- The least count at 24 000 units per second: it comes back 25 808 nanoseconds nearer to zero,
where one unit is 41 667. -/
theorem nanos_round_trip_fallsShort_minValue :
    fromNanos? Int64.minValue 24000 = some (-221360928884514) ∧
    ∃ b, toNanos? (-221360928884514) 24000 = some b ∧
      FallsShort ⌈(1000000000 : ℚ) / (24000 : Int64).toInt⌉ Int64.minValue.toInt b.toInt ∧
      (1000000000 ∣ Int64.minValue.toInt * (24000 : Int64).toInt → b = Int64.minValue) := by
  have h : fromNanos? Int64.minValue 24000 = some (-221360928884514) := by decide
  exact ⟨h, nanos_round_trip_fallsShort.1 _ _ _ h⟩

end FrameTiming.Rate
