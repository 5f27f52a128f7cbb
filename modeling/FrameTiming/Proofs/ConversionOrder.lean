import FrameTiming.Proofs.RoundTrip
import FrameTiming.Proofs.Unchecked
import Mathlib.Order.Bounds.Basic

/-!
# Conversion keeps time in order

A conversion truncates toward zero, and one count of the slower rate stands for many counts of the
faster one.  Two points in time may fall together in it, but they never change places.

* `fromNanos_mono` — no conversion from nanoseconds reorders anything.
* `exact_lt_exact_of_add_le`, `exact_lt_exact_of_two_mul_le` — how far apart two counts have to be
  to stay apart: one unit of the slower rate on either side of the epoch, two across it.
* `Timestamp.Separates` and the `isLeast_separates` lemmas — the same in nanoseconds: the gap that
  suffices for ticks, and that no smaller one does.
* `Timestamp.toTicks_eq_epoch_iff` — the nanoseconds that are tick 0.
* `ediv_mul_sub_le` — toward the faster rate nothing falls together: each count adds at least
  `dst / src`, rounded down.

**The epoch counts twice.**  Truncation toward zero takes everything less than a unit before the
epoch and everything less than a unit after it to the same count.  That zone is two units wide,
where all others have a width of one.
-/

namespace FrameTiming

namespace Rate

variable {v w src dst : ℤ}

/-! ## Toward the slower rate -/

lemma fromNanos_mono {a b rate : Int64} (hpos : 0 < rate.toInt) (hle : rate.toInt ≤ 1000000000)
    (h : a ≤ b) : fromNanos a rate ≤ fromNanos b rate := by
  rw [Int64.le_iff_toInt_le, toInt_fromNanos a hpos hle, toInt_fromNanos b hpos hle]
  exact exact_mono (by decide) hpos.le (Int64.le_iff_toInt_le.1 h)

lemma exact_lt_exact_of_nonneg (hsrc : 0 < src) (hdst : 0 ≤ dst) (hv : 0 ≤ v) (hw : 0 ≤ w)
    (h : v * dst + src ≤ w * dst) : exact v src dst < exact w src dst := by
  obtain ⟨-, hvle, -⟩ := exact_bounds hv hsrc hdst
  obtain ⟨-, -, hwlt⟩ := exact_bounds hw hsrc hdst
  have hlt : (exact v src dst + 1) * src < (exact w src dst + 1) * src := by
    rw [Int.add_mul, Int.one_mul]
    omega
  have := Int.lt_of_mul_lt_mul_right hlt hsrc.le
  omega

/-- **One unit apart, on one side of zero**, is enough for two counts to stay apart. -/
lemma exact_lt_exact_of_add_le (hsrc : 0 < src) (hdst : 0 ≤ dst)
    (hside : 0 ≤ v ∧ 0 ≤ w ∨ v ≤ 0 ∧ w ≤ 0) (h : v * dst + src ≤ w * dst) :
    exact v src dst < exact w src dst := by
  rcases hside with ⟨hv, hw⟩ | ⟨hv, hw⟩
  · exact exact_lt_exact_of_nonneg hsrc hdst hv hw h
  · have hneg : exact (-w) src dst < exact (-v) src dst := by
      refine exact_lt_exact_of_nonneg hsrc hdst (by omega) (by omega) ?_
      rw [Int.neg_mul, Int.neg_mul]
      omega
    rw [exact_neg, exact_neg] at hneg
    omega

/-- **Two units apart** is enough anywhere: across zero one of the counts is a whole unit away
from it. -/
lemma exact_lt_exact_of_two_mul_le (hsrc : 0 < src) (hdst : 0 ≤ dst)
    (h : v * dst + 2 * src ≤ w * dst) : exact v src dst < exact w src dst := by
  have hone : v * dst + src ≤ w * dst := by omega
  rcases le_total 0 v with hv | hv
  · have hvw : v < w := Int.lt_of_mul_lt_mul_right (by omega) hdst
    exact exact_lt_exact_of_add_le hsrc hdst (Or.inl ⟨hv, by omega⟩) hone
  rcases le_total w 0 with hw | hw
  · exact exact_lt_exact_of_add_le hsrc hdst (Or.inr ⟨hv, hw⟩) hone
  have hbelow : exact v src dst ≤ exact 0 src dst := exact_mono hsrc hdst hv
  have habove : exact 0 src dst ≤ exact w src dst := exact_mono hsrc hdst hw
  -- on opposite sides: one of the two is a whole unit away from zero
  by_cases hunit : src ≤ w * dst
  · refine hbelow.trans_lt (exact_lt_exact_of_add_le hsrc hdst (Or.inl ⟨le_rfl, hw⟩) ?_)
    rwa [Int.zero_mul, Int.zero_add]
  · refine lt_of_lt_of_le (exact_lt_exact_of_add_le hsrc hdst (Or.inr ⟨hv, le_rfl⟩) ?_) habove
    rw [Int.zero_mul]
    omega

/-! ## Toward the faster rate -/

lemma exact_eq_add_exact_emod_of_nonneg (hv : 0 ≤ v) (hsrc : 0 < src) (hdst : 0 ≤ dst) :
    exact v src dst = dst / src * v + exact v src (dst % src) := by
  have hmod : 0 ≤ dst % src := Int.emod_nonneg _ hsrc.ne'
  have hprod : v * dst = v * (dst % src) + dst / src * v * src := by
    conv => lhs; rw [← Int.emod_add_mul_ediv dst src]
    rw [Int.mul_add, Int.mul_comm src, ← Int.mul_assoc, Int.mul_comm v (dst / src)]
  rw [exact, exact, Int.tdiv_eq_ediv_of_nonneg (Int.mul_nonneg hv hdst),
    Int.tdiv_eq_ediv_of_nonneg (Int.mul_nonneg hv hmod), hprod,
    Int.add_mul_ediv_right _ _ hsrc.ne', Int.add_comm]

/-- A conversion is a multiplication by the whole part of `dst / src` and a conversion by the
rest of it. -/
lemma exact_eq_add_exact_emod (v : ℤ) (hsrc : 0 < src) (hdst : 0 ≤ dst) :
    exact v src dst = dst / src * v + exact v src (dst % src) := by
  rcases le_total 0 v with hv | hv
  · exact exact_eq_add_exact_emod_of_nonneg hv hsrc hdst
  · have hneg := exact_eq_add_exact_emod_of_nonneg (v := -v) (by omega) hsrc hdst
    rw [exact_neg, exact_neg, Int.mul_neg] at hneg
    omega

/-- **What each count adds.** -/
lemma ediv_mul_sub_le (hsrc : 0 < src) (hdst : 0 ≤ dst) (h : v ≤ w) :
    dst / src * (w - v) ≤ exact w src dst - exact v src dst := by
  have hrest : exact v src (dst % src) ≤ exact w src (dst % src) :=
    exact_mono hsrc (Int.emod_nonneg _ hsrc.ne') h
  rw [exact_eq_add_exact_emod v hsrc hdst, exact_eq_add_exact_emod w hsrc hdst, Int.mul_sub]
  omega

end Rate

/-! ## Timestamps -/

namespace Timestamp

/-- A gap that separates: timestamps of `side` that are at least so many nanoseconds apart are
different ticks. -/
def Separates (side : Set ℤ) (gap : ℤ) : Prop :=
  ∀ t u : Timestamp .nanosecond, t.toInt ∈ side → u.toInt ∈ side →
    gap ≤ u.toInt - t.toInt → t.toTicks < u.toTicks

variable {side : Set ℤ} {gap : ℤ} {t u : Timestamp .nanosecond}

/-- Two timestamps that fall together are closer than any gap that separates. -/
lemma Separates.sub_lt (h : Separates side gap) (ht : t.toInt ∈ side) (hu : u.toInt ∈ side)
    (htogether : u.toTicks ≤ t.toTicks) : u.toInt - t.toInt < gap := by
  by_contra hle
  have hlt := h t u ht hu (by omega)
  rw [lt_iff_toInt_lt] at hlt
  rw [le_iff_toInt_le] at htogether
  omega

lemma separates_of_side (hside : (∀ n ∈ side, 0 ≤ n) ∨ ∀ n ∈ side, n ≤ 0) :
    Separates side 11112 := by
  intro t u ht hu hgap
  rw [lt_iff_toInt_lt, toInt_toTicks, toInt_toTicks]
  refine Rate.exact_lt_exact_of_add_le (by decide) (by decide) ?_ (by omega)
  exact hside.imp (fun h => ⟨h _ ht, h _ hu⟩) fun h => ⟨h _ ht, h _ hu⟩

lemma isLeast_separates_nonneg : IsLeast {gap | Separates {n | 0 ≤ n} gap} 11112 := by
  refine ⟨separates_of_side (Or.inl fun _ hn => hn), fun gap h => ?_⟩
  exact Separates.sub_lt (t := ⟨0⟩) (u := ⟨11111⟩) h (by decide) (by decide) (by decide)

lemma isLeast_separates_nonpos : IsLeast {gap | Separates {n | n ≤ 0} gap} 11112 := by
  refine ⟨separates_of_side (Or.inr fun _ hn => hn), fun gap h => ?_⟩
  exact Separates.sub_lt (t := ⟨-11111⟩) (u := ⟨0⟩) h (by decide) (by decide) (by decide)

lemma isLeast_separates : IsLeast {gap | Separates Set.univ gap} 22223 := by
  constructor
  · intro t u _ _ hgap
    rw [lt_iff_toInt_lt, toInt_toTicks, toInt_toTicks]
    exact Rate.exact_lt_exact_of_two_mul_le (by decide) (by decide) (by omega)
  · intro gap h
    exact Separates.sub_lt (t := ⟨-11111⟩) (u := ⟨11111⟩) h trivial trivial (by decide)

/-- The zone around the epoch, two ticks wide. -/
lemma toTicks_eq_epoch_iff : t.toTicks = epoch ↔ |t.toInt| ≤ 11111 := by
  rw [← toInt_inj, toInt_toTicks, toInt_epoch, Rate.exact_nanos_ticks, abs_le]
  have hcases := Rate.tdiv_tmod_eq (t.toInt * 9) 100000
  omega

lemma mul_sub_le_of_toNanos? {m n : Timestamp .tick} (hm : m.toNanos? = some t)
    (hn : n.toNanos? = some u) (h : m < n) :
    11111 * (n.toInt - m.toInt) ≤ u.toInt - t.toInt := by
  rw [lt_iff_toInt_lt] at h
  rw [toNanos?_eq_some_iff.1 hm, toNanos?_eq_some_iff.1 hn]
  calc 11111 * (n.toInt - m.toInt) = 1000000000 / 90000 * (n.toInt - m.toInt) := rfl
    _ ≤ _ := Rate.ediv_mul_sub_le (by decide) (by decide) h.le

/-! ## The whole statement -/

/-- **Conversion never reorders time.**  In no timescale of at most one unit for each nanosecond
does a later count come before an earlier one, so a later timestamp is never an earlier tick.  Two
timestamps on one side of the epoch are different ticks when they are 11 112 nanoseconds apart, and
any two when they are 22 223 apart, which is what the zone of tick 0 takes; neither gap can be
smaller.  In the other direction nothing falls together: a later tick is a later timestamp, by at
least 11 111 nanoseconds for each tick between them. -/
theorem conversion_keeps_order :
    (∀ rate a b : Int64, 0 < rate.toInt → rate.toInt ≤ 1000000000 → a ≤ b →
      Rate.fromNanos a rate ≤ Rate.fromNanos b rate) ∧
    (∀ t u : Timestamp .nanosecond, t < u → ¬ u.toTicks < t.toTicks) ∧
    IsLeast {gap | Separates {n | 0 ≤ n} gap} 11112 ∧
    IsLeast {gap | Separates {n | n ≤ 0} gap} 11112 ∧
    IsLeast {gap | Separates Set.univ gap} 22223 ∧
    (∀ t : Timestamp .nanosecond, t.toTicks = epoch ↔ |t.toInt| ≤ 11111) ∧
    (∀ (m n : Timestamp .tick) (t u : Timestamp .nanosecond),
      m.toNanos? = some t → n.toNanos? = some u → m < n →
      t < u ∧ 11111 * (n.toInt - m.toInt) ≤ u.toInt - t.toInt) := by
  refine ⟨fun rate a b => Rate.fromNanos_mono, ?_, isLeast_separates_nonneg,
    isLeast_separates_nonpos, isLeast_separates, fun t => toTicks_eq_epoch_iff, ?_⟩
  · intro t u h hlt
    rw [lt_iff_toInt_lt] at h hlt
    have hle : t.toTicks ≤ u.toTicks := toTicks_mono (le_iff_toInt_le.2 h.le)
    rw [le_iff_toInt_le] at hle
    omega
  · intro m n t u hm hn h
    have hsub := mul_sub_le_of_toNanos? hm hn h
    rw [lt_iff_toInt_lt] at h ⊢
    exact ⟨by omega, hsub⟩

/-- From one end of the range to the other at 24 000 units per second; the last nanosecond before
the epoch that is a tick of its own, against the last one after the epoch that is not; and the two
outermost ticks that have nanoseconds. -/
theorem conversion_keeps_order_range_ends :
    Rate.fromNanos Int64.minValue 24000 ≤ Rate.fromNanos Int64.maxValue 24000 ∧
    ¬ (⟨11111⟩ : Timestamp .nanosecond).toTicks < (⟨-11112⟩ : Timestamp .nanosecond).toTicks ∧
    (⟨-11112⟩ : Timestamp .nanosecond).toTicks < (⟨11111⟩ : Timestamp .nanosecond).toTicks ∧
    (⟨-9223372036854766666⟩ : Timestamp .nanosecond) < ⟨9223372036854766666⟩ := by
  obtain ⟨hrate, hlater, -, -, hanywhere, -, hback⟩ := conversion_keeps_order
  refine ⟨?_, hlater _ _ (by decide), ?_, ?_⟩
  · exact hrate 24000 Int64.minValue Int64.maxValue (by decide) (by decide) (by decide)
  · exact hanywhere.1 _ _ trivial trivial (by decide)
  · exact (hback ⟨-830103483316929⟩ ⟨830103483316929⟩ _ _ (by decide) (by decide) (by decide)).1

end Timestamp

end FrameTiming
