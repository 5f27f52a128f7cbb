import FrameTiming.Timestamp
import Mathlib.Algebra.Order.Group.Unbundled.Int
import Mathlib.Tactic.Lemma

/-!
# Timestamps and durations as an affine space

Timestamps are the points and durations the steps between them.  Every operation may refuse, and the
range of words is not symmetric, so each law has to say when both of its sides exist: the distance
from the epoch back to the least timestamp can be measured, the distance the other way cannot.

* `Timestamp.add?_eq_some_iff_since?`, `Timestamp.sub?_eq_some_iff_since?` — adding, measuring and
  taking away are three readings of one fact.
* `Timestamp.since?_eq_neg?` — measured the other way round, a duration is negated, or refused where
  the negation is.
* `Timestamp.sub?_eq_add?_of_neg?` — going back is going on by the negated duration.
* `Timestamp.lt_iff_pos_of_since?`, `Timestamp.lt_iff_of_since?_eq_none` — the order, told by the
  difference, and by the epoch where there is no difference.

All of it holds in either timebase.
-/

namespace FrameTiming

namespace Duration

variable {b : Timebase} {d : Duration b}

/-- Only the least duration cannot be turned around. -/
lemma neg?_eq_none_iff : d.neg? = none ↔ d.toInt = -2 ^ 63 := by
  have hfits := d.fits
  rw [neg?, ofCount?_eq_none_iff, Word.neg?_eq_ofInt?, Word.ofInt?_eq_none_iff]
  change ¬ Fits (-d.toInt) ↔ _
  unfold Fits at *
  omega

end Duration

namespace Timestamp

variable {b : Timebase} {t u : Timestamp b} {d e : Duration b}

/-! ## Adding, measuring, taking away -/

lemma add?_eq_some_iff_since? : t.add? d = some u ↔ u.since? t = some d := by
  rw [add?_eq_some_iff, since?_eq_some_iff, eq_sub_iff_add_eq', eq_comm]

lemma sub?_eq_some_iff_since? : u.sub? d = some t ↔ u.since? t = some d := by
  rw [sub?_eq_some_iff, since?_eq_some_iff]
  omega

/-! ## The other way round -/

/-- **Measured from its other end, a duration is negated.** -/
lemma since?_eq_neg? (h : t.since? u = some d) : u.since? t = d.neg? := by
  ext e
  rw [since?_eq_some_iff, Duration.neg?_eq_some_iff, since?_eq_some_iff.1 h, neg_sub]

/-- **To go back is to go on by the negated duration**, refusals included. -/
lemma sub?_eq_add?_of_neg? (h : d.neg? = some e) : t.sub? d = t.add? e := by
  ext u
  rw [sub?_eq_some_iff, add?_eq_some_iff, Duration.neg?_eq_some_iff.1 h, sub_eq_add_neg]

/-! ## The order -/

lemma lt_iff_pos_of_since? (h : t.since? u = some d) : u < t ↔ 0 < d.toInt := by
  rw [lt_iff_toInt_lt, since?_eq_some_iff.1 h, sub_pos]

lemma lt_iff_neg_of_since? (h : t.since? u = some d) : t < u ↔ d.toInt < 0 := by
  rw [lt_iff_toInt_lt, since?_eq_some_iff.1 h, sub_neg]

lemma eq_iff_zero_of_since? (h : t.since? u = some d) : t = u ↔ d.toInt = 0 := by
  rw [← toInt_inj, since?_eq_some_iff.1 h, sub_eq_zero]

/-- Timestamps too far apart to be measured lie on different sides of the epoch. -/
lemma lt_iff_of_since?_eq_none (h : t.since? u = none) :
    u < t ↔ 0 ≤ t.toInt ∧ u.toInt < 0 := by
  have ht := t.fits
  have hu := u.fits
  -- two timestamps on one side of the epoch are always close enough
  rw [since?_eq_none_iff] at h
  rw [lt_iff_toInt_lt]
  unfold Fits at *
  omega

/-! ## The whole statement -/

/-- **Timestamps and durations form an affine space, as far as words reach.**  A timestamp is
another one moved by a duration exactly when that duration is measured between them, and exactly
when taking it away leads back.  Measured the other way round a duration is negated, and refused
only when it is the least one.  Where a duration can be negated, taking it away is adding the
negation.  The sign of a difference is the order of the two timestamps; where it cannot be measured,
the later one is that at or after the epoch. -/
theorem partial_affine_space (b : Timebase) :
    (∀ (t u : Timestamp b) (d : Duration b),
      (t.add? d = some u ↔ u.since? t = some d) ∧ (u.sub? d = some t ↔ u.since? t = some d)) ∧
    (∀ (t u : Timestamp b) (d : Duration b), t.since? u = some d →
      u.since? t = d.neg? ∧ (u.since? t).map Duration.count = Word.neg? d.count ∧
        (u.since? t = none ↔ d.toInt = -2 ^ 63)) ∧
    (∀ (t : Timestamp b) (d e : Duration b), d.neg? = some e → t.sub? d = t.add? e) ∧
    (∀ (t u : Timestamp b) (d : Duration b), t.since? u = some d →
      (u < t ↔ 0 < d.toInt) ∧ (t < u ↔ d.toInt < 0) ∧ (t = u ↔ d.toInt = 0)) ∧
    (∀ t u : Timestamp b, t.since? u = none → (u < t ↔ 0 ≤ t.toInt ∧ u.toInt < 0)) := by
  refine ⟨?_, ?_, ?_, ?_, ?_⟩
  · intro t u d
    exact ⟨add?_eq_some_iff_since?, sub?_eq_some_iff_since?⟩
  · intro t u d h
    rw [since?_eq_neg? h]
    exact ⟨rfl, Duration.map_count_ofCount? _, Duration.neg?_eq_none_iff⟩
  · intro t d e h
    exact sub?_eq_add?_of_neg? h
  · intro t u d h
    exact ⟨lt_iff_pos_of_since? h, lt_iff_neg_of_since? h, eq_iff_zero_of_since? h⟩
  · intro t u h
    exact lt_iff_of_since?_eq_none h

/-- The least tick is as far from the epoch as a duration can say, and only seen from there: the
epoch is later by a difference that is refused. -/
theorem partial_affine_space_least_tick :
    ((⟨Int64.minValue⟩ : Timestamp .tick).since? ⟨0⟩ = some ⟨Int64.minValue⟩ ∧
      (⟨Int64.minValue⟩ : Timestamp .tick) < ⟨0⟩) ∧
    ((⟨0⟩ : Timestamp .tick).since? ⟨Int64.minValue⟩ = none ∧
      (⟨Int64.minValue⟩ : Timestamp .tick) < ⟨0⟩) ∧
    ((⟨5⟩ : Duration .nanosecond).neg? = some ⟨-5⟩ ∧
      (⟨Int64.minValue⟩ : Timestamp .nanosecond).sub? ⟨5⟩ =
        (⟨Int64.minValue⟩ : Timestamp .nanosecond).add? ⟨-5⟩) := by
  obtain ⟨-, hturn, -, horder, hfar⟩ := partial_affine_space .tick
  have hback : (⟨Int64.minValue⟩ : Timestamp .tick).since? ⟨0⟩ = some ⟨Int64.minValue⟩ := by decide
  have hahead := (hturn _ _ _ hback).2.2.2 (by decide)
  have hneg : (⟨5⟩ : Duration .nanosecond).neg? = some ⟨-5⟩ := by decide
  refine ⟨⟨hback, ?_⟩, ⟨hahead, ?_⟩, hneg, ?_⟩
  · exact (horder _ _ _ hback).2.1.2 (by decide)
  · exact (hfar _ _ hahead).2 (by decide)
  · exact (partial_affine_space .nanosecond).2.2.1 _ _ _ hneg

end Timestamp

end FrameTiming
