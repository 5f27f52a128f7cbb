import FrameTiming.Proofs.RoundTrip

/-!
# Converting in two steps

A count is often converted to a fine rate first and to a coarse one later: ticks are taken from
nanoseconds, and milliseconds from those ticks.  Each step truncates.  When the fine rate is a
multiple of the coarse one, the second truncation finds nothing that the first has not left it.

* `exact_exact` — over the integers two steps are one.
* `exists_convert?_convert?` — the same for words.  Whatever can be expressed at the fine rate can
  be expressed at the coarse one, so the second step and the direct one never refuse.
* `exact_there_and_back_exact` — a unit of which both rates are multiples is kept by a round trip.
* `tdiv_exact_there_and_back` — so whole seconds and milliseconds come back from ticks as they were,
  although nanoseconds do not.
-/

namespace FrameTiming.Rate

variable {src m : ℤ}

/-! ## Over the integers -/

lemma tdiv_tdiv_of_nonneg {a b c : ℤ} (ha : 0 ≤ a) (hb : 0 < b) :
    (a.tdiv b).tdiv c = a.tdiv (b * c) := by
  rw [Int.tdiv_eq_ediv_of_nonneg ha, Int.tdiv_eq_ediv_of_nonneg (Int.ediv_nonneg ha hb.le),
    Int.tdiv_eq_ediv_of_nonneg ha, Int.ediv_ediv_of_nonneg hb.le]

lemma tdiv_tdiv (a c : ℤ) {b : ℤ} (hb : 0 < b) : (a.tdiv b).tdiv c = a.tdiv (b * c) := by
  rcases le_total 0 a with ha | ha
  · exact tdiv_tdiv_of_nonneg ha hb
  · have hneg := tdiv_tdiv_of_nonneg (a := -a) (c := c) (by omega) hb
    rwa [Int.neg_tdiv, Int.neg_tdiv, Int.neg_tdiv, neg_inj] at hneg

/-- From a multiple of the target rate a conversion is a division. -/
lemma exact_mul (v m dst : ℤ) (hdst : 0 < dst) : exact v (m * dst) dst = v.tdiv m :=
  Int.mul_tdiv_mul_of_pos_left v m hdst

/-- **Two steps are one**, when the rate in between is a multiple of the last one. -/
lemma exact_exact (v m dst : ℤ) (hsrc : 0 < src) (hdst : 0 < dst) (hm : 0 < m) :
    exact (exact v src (m * dst)) (m * dst) dst = exact v src dst := by
  calc exact (exact v src (m * dst)) (m * dst) dst
      = ((v * (m * dst)).tdiv src).tdiv m := exact_mul _ _ _ hdst
    _ = (v * (m * dst)).tdiv (src * m) := tdiv_tdiv _ _ hsrc
    _ = (v * dst * m).tdiv (src * m) := by ring_nf
    _ = exact v src dst := Int.mul_tdiv_mul_of_pos_left _ _ hm

/-- **A coarse unit survives a round trip** between two of its multiples. -/
lemma exact_there_and_back_exact (v k m dst : ℤ) (hdst : 0 < dst) (hk : 0 < k) (hm : 0 < m) :
    exact (exact (exact v (k * dst) (m * dst)) (m * dst) (k * dst)) (k * dst) dst =
      exact v (k * dst) dst := by
  rw [exact_exact _ _ _ (Int.mul_pos hm hdst) hdst hk,
    exact_exact _ _ _ (Int.mul_pos hk hdst) hdst hm]

/-! ## Words -/

/-- **Two steps of words are one**, and neither the second nor the direct one is refused. -/
lemma exists_convert?_convert? {v src dst fine u : Int64} (hm : 0 < m)
    (hfine : fine.toInt = m * dst.toInt) (h : convert? v src fine = some u) :
    ∃ w, convert? u fine dst = some w ∧ convert? v src dst = some w := by
  obtain ⟨hsrc, hpos, hu⟩ := convert?_eq_some_iff.1 h
  have hdst : 0 < dst.toInt := (mul_pos_iff_of_pos_left hm).1 (hfine ▸ hpos)
  have hle : dst.toInt ≤ fine.toInt := by
    rw [hfine]
    exact le_mul_of_one_le_left hdst.le hm
  -- the target rate is no faster than the one in between
  have hfits : Fits (exact u.toInt fine.toInt dst.toInt) := fits_exact (fits_toInt u) hdst hle
  have hone : exact u.toInt fine.toInt dst.toInt = exact v.toInt src.toInt dst.toInt := by
    rw [hu, hfine, exact_exact _ _ _ hsrc hdst hm]
  refine ⟨Int64.ofInt (exact u.toInt fine.toInt dst.toInt),
    convert?_eq_some_iff.2 ⟨hpos, hdst, Word.toInt_ofInt hfits⟩,
    convert?_eq_some_iff.2 ⟨hsrc, hdst, ?_⟩⟩
  rw [Word.toInt_ofInt hfits, hone]

/-! ## Milliseconds and seconds -/

lemma exact_nanos_seconds (n : ℤ) : exact n 1000000000 1 = n.tdiv 1000000000 :=
  exact_mul n 1000000000 1 (by decide)

lemma exact_nanos_milliseconds (n : ℤ) : exact n 1000000000 1000 = n.tdiv 1000000 :=
  exact_mul n 1000000 1000 (by decide)

lemma exact_ticks_milliseconds (n : ℤ) : exact n 90000 1000 = n.tdiv 90 :=
  exact_mul n 90 1000 (by decide)

/-- Whole seconds and milliseconds come back from ticks as they were. -/
lemma tdiv_exact_there_and_back (n : ℤ) :
    (exact (exact n 1000000000 90000) 90000 1000000000).tdiv 1000000000 = n.tdiv 1000000000 ∧
      (exact (exact n 1000000000 90000) 90000 1000000000).tdiv 1000000 = n.tdiv 1000000 := by
  constructor
  · rw [← exact_nanos_seconds, ← exact_nanos_seconds]
    exact exact_there_and_back_exact n 1000000000 90000 1 (by decide) (by decide) (by decide)
  · rw [← exact_nanos_milliseconds, ← exact_nanos_milliseconds]
    exact exact_there_and_back_exact n 1000000 90 1000 (by decide) (by decide) (by decide)

lemma exists_toNanos?_keeps (n : Int64) :
    ∃ m, toNanos? (fromNanos n ticksPerSecond) ticksPerSecond = some m ∧
      m.toInt.tdiv 1000000000 = n.toInt.tdiv 1000000000 ∧
      m.toInt.tdiv 1000000 = n.toInt.tdiv 1000000 := by
  obtain ⟨m, hm, -⟩ := exists_toNanos?_ticks n
  refine ⟨m, hm, ?_⟩
  rw [(toNanos?_eq_some_iff.1 hm).2, Duration.toInt_fromNanos_ticksPerSecond]
  exact tdiv_exact_there_and_back n.toInt

/-- The milliseconds of a nanosecond duration, by way of its ticks. -/
lemma toInt_milliseconds_toTicks (d : Duration .nanosecond) :
    d.toTicks.milliseconds.toInt = d.toInt.tdiv 1000000 := by
  rw [Duration.toInt_milliseconds, Duration.toInt_toTicks, ← exact_nanos_milliseconds]
  exact exact_exact d.toInt 90 1000 (by decide) (by decide) (by decide)

/-- The milliseconds of a tick duration, by way of its nanoseconds. -/
lemma tdiv_of_nanoseconds? {d : Duration .tick} {n : Int64} (h : d.nanoseconds? = some n) :
    n.toInt.tdiv 1000000 = d.milliseconds.toInt := by
  rw [Duration.nanoseconds?] at h
  rw [Duration.toInt_milliseconds, (toNanos?_eq_some_iff.1 h).2, ← exact_nanos_milliseconds]
  exact exact_exact d.toInt 1000000 1000 (by decide) (by decide) (by decide)

/-! ## The whole statement -/

/-- **Two steps lose nothing against one.**  A count that can be expressed at a multiple of a rate
can be expressed at that rate, and it makes no difference whether it is converted by way of the
multiple or directly.  So the milliseconds of a nanosecond duration can be taken from its ticks and
those of a tick duration from its nanoseconds, if it has any; they are the nanoseconds divided by
a million and the ticks divided by ninety, truncated toward zero.  Whole seconds and milliseconds
of durations and timestamps come back from ticks as they were. -/
theorem two_steps_eq_one :
    (∀ (v src dst fine u : Int64) (m : ℤ), 0 < m → fine.toInt = m * dst.toInt →
      convert? v src fine = some u →
      ∃ w, convert? u fine dst = some w ∧ convert? v src dst = some w) ∧
    (∀ d : Duration .nanosecond, d.toTicks.milliseconds.toInt = d.toInt.tdiv 1000000) ∧
    (∀ d : Duration .tick, d.milliseconds.toInt = d.toInt.tdiv 90 ∧
      ∀ n, d.nanoseconds? = some n → n.toInt.tdiv 1000000 = d.milliseconds.toInt) ∧
    (∀ d : Duration .nanosecond, ∃ e, d.toTicks.toNanos? = some e ∧
      e.toInt.tdiv 1000000000 = d.toInt.tdiv 1000000000 ∧
      e.toInt.tdiv 1000000 = d.toInt.tdiv 1000000) ∧
    (∀ t : Timestamp .nanosecond, ∃ u, t.toTicks.toNanos? = some u ∧
      u.toInt.tdiv 1000000000 = t.toInt.tdiv 1000000000 ∧
      u.toInt.tdiv 1000000 = t.toInt.tdiv 1000000) := by
  refine ⟨?_, toInt_milliseconds_toTicks, ?_, ?_, ?_⟩
  · intro v src dst fine u m hm hfine h
    exact exists_convert?_convert? hm hfine h
  · intro d
    refine ⟨?_, fun n => tdiv_of_nanoseconds?⟩
    rw [Duration.toInt_milliseconds, exact_ticks_milliseconds, Duration.toInt]
  · rintro ⟨n⟩
    obtain ⟨m, hm, hkept⟩ := exists_toNanos?_keeps n
    exact ⟨⟨m⟩, Duration.ofCount?_eq_some_iff.2 hm, hkept⟩
  · rintro ⟨n⟩
    obtain ⟨m, hm, hkept⟩ := exists_toNanos?_keeps n
    exact ⟨⟨m⟩, Timestamp.ofCount?_eq_some_iff.2 hm, hkept⟩

/-- The last tick with nanoseconds: its milliseconds are the same by way of the nanoseconds, of
which the next tick has none. -/
theorem two_steps_eq_one_last_tick :
    convert? 830103483316929 90000 1000000000 = some 9223372036854766666 ∧
    (∃ w, convert? 9223372036854766666 1000000000 1000 = some w ∧
      convert? 830103483316929 90000 1000 = some w) ∧
    (9223372036854766666 : Int64).toInt.tdiv 1000000 =
      (⟨830103483316929⟩ : Duration .tick).milliseconds.toInt := by
  have h : convert? 830103483316929 90000 1000000000 = some 9223372036854766666 := by decide
  refine ⟨h, ?_, ?_⟩
  · exact two_steps_eq_one.1 _ _ 1000 _ _ 1000000 (by decide) (by decide) h
  · exact (two_steps_eq_one.2.2.1 ⟨830103483316929⟩).2 _ h

end FrameTiming.Rate
