import FrameTiming.Proofs.TickRange
import FrameTiming.Proofs.Unchecked
import Mathlib.Algebra.Order.BigOperators.Group.List
import Mathlib.Data.List.Infix
import Mathlib.Tactic.Linarith

/-!
# Adding before or after a conversion

The durations of a recording can be added in nanoseconds and converted once, or converted one by one
and added in ticks.  Truncation makes the two differ, and this module says by how much.

* `Rate.exists_rest` — what a conversion cuts off, with its sign.
* `Rate.abs_exact_add_sub_le`, `Rate.exact_add_exact_le` — one addition costs at most one unit, and
  from zero on only the parts can lose it.
* `Rate.shortfall` — the difference for a whole list.  `Rate.abs_shortfall_cons_le` counts the
  additions, of which there is one less than there are counts.
* `Duration.total?` — the sum as it is formed, with every running sum checked.

**Opposite signs** do not make it worse.  The parts that are cut off point in different directions
then, and one of the two counts has the sign of their sum.
-/

namespace FrameTiming

namespace Rate

variable {src dst : ℤ}

/-! ## One addition -/

/-- What a conversion cuts off is less than a unit and has the sign of the count. -/
lemma exists_rest (v : ℤ) (hsrc : 0 < src) (hdst : 0 ≤ dst) :
    ∃ r, v * dst = exact v src dst * src + r ∧ -src < r ∧ r < src ∧
      (0 ≤ v → 0 ≤ r) ∧ (v ≤ 0 → r ≤ 0) := by
  refine ⟨(v * dst).tmod src, (Int.tdiv_mul_add_tmod _ _).symm, Int.lt_tmod_of_pos _ hsrc,
    Int.tmod_lt_of_pos _ hsrc, fun hv => Int.tmod_nonneg _ (Int.mul_nonneg hv hdst), fun hv => ?_⟩
  have hneg : 0 ≤ (-v * dst).tmod src := Int.tmod_nonneg _ (Int.mul_nonneg (by omega) hdst)
  rw [Int.neg_mul, Int.neg_tmod] at hneg
  omega

/-- **One addition costs at most one unit.** -/
lemma abs_exact_add_sub_le (v w : ℤ) (hsrc : 0 < src) (hdst : 0 ≤ dst) :
    |exact (v + w) src dst - (exact v src dst + exact w src dst)| ≤ 1 := by
  obtain ⟨r, hr, hrlow, hrup, hrpos, hrneg⟩ := exists_rest v hsrc hdst
  obtain ⟨s, hs, hslow, hsup, hspos, hsneg⟩ := exists_rest w hsrc hdst
  obtain ⟨q, hq, hqlow, hqup, hqpos, hqneg⟩ := exists_rest (v + w) hsrc hdst
  have hcost : (exact (v + w) src dst - (exact v src dst + exact w src dst)) * src = r + s - q := by
    linarith
  -- counts of one sign leave rests of one sign, and so does their sum; of opposite signs, the two
  -- rests together are less than a unit
  rw [abs_le]
  constructor
  · have hlow : -2 * src < r + s - q := by omega
    rw [← hcost] at hlow
    have := Int.lt_of_mul_lt_mul_right hlow hsrc.le
    omega
  · have hup : r + s - q < 2 * src := by omega
    rw [← hcost] at hup
    have := Int.lt_of_mul_lt_mul_right hup hsrc.le
    omega

lemma abs_exact_sub_sub_le (v w : ℤ) (hsrc : 0 < src) (hdst : 0 ≤ dst) :
    |exact (v - w) src dst - (exact v src dst - exact w src dst)| ≤ 1 := by
  have h := abs_exact_add_sub_le v (-w) hsrc hdst
  rwa [exact_neg, ← Int.sub_eq_add_neg, ← Int.sub_eq_add_neg] at h

/-- From zero on, adding before the conversion loses nothing that adding after it keeps. -/
lemma exact_add_exact_le {v w : ℤ} (hv : 0 ≤ v) (hw : 0 ≤ w) (hsrc : 0 < src) (hdst : 0 ≤ dst) :
    exact v src dst + exact w src dst ≤ exact (v + w) src dst := by
  obtain ⟨-, hvle, -⟩ := exact_bounds hv hsrc hdst
  obtain ⟨-, hwle, -⟩ := exact_bounds hw hsrc hdst
  obtain ⟨-, -, hlt⟩ := exact_bounds (Int.add_nonneg hv hw) hsrc hdst
  have hmul : (exact v src dst + exact w src dst) * src < (exact (v + w) src dst + 1) * src := by
    linarith
  have := Int.lt_of_mul_lt_mul_right hmul hsrc.le
  omega

/-! ## A list of counts -/

/-- How far the conversions of the counts fall short of the conversion of their sum. -/
def shortfall (src dst : ℤ) (vs : List ℤ) : ℤ :=
  exact vs.sum src dst - (vs.map (exact · src dst)).sum

lemma shortfall_cons (src dst v : ℤ) (vs : List ℤ) :
    shortfall src dst (v :: vs) =
      exact (v + vs.sum) src dst - (exact v src dst + exact vs.sum src dst) +
        shortfall src dst vs := by
  simp only [shortfall, List.sum_cons, List.map_cons]
  omega

/-- **One unit for each addition.** -/
lemma abs_shortfall_cons_le (v : ℤ) (vs : List ℤ) (hsrc : 0 < src) (hdst : 0 ≤ dst) :
    |shortfall src dst (v :: vs)| ≤ vs.length := by
  -- one count is kept in front: with `n` behind it there are `n` additions
  induction vs generalizing v with
  | nil => simp [shortfall]
  | cons w vs ih =>
    have hone := abs_exact_add_sub_le v (w :: vs).sum hsrc hdst
    rw [shortfall_cons, List.length_cons]
    push_cast
    calc |exact (v + (w :: vs).sum) src dst - (exact v src dst + exact (w :: vs).sum src dst) +
          shortfall src dst (w :: vs)|
        ≤ _ + |shortfall src dst (w :: vs)| := abs_add_le _ _
      _ ≤ 1 + vs.length := add_le_add hone (ih w)
      _ = vs.length + 1 := add_comm ..

lemma shortfall_nonneg {vs : List ℤ} (h : ∀ v ∈ vs, 0 ≤ v) (hsrc : 0 < src) (hdst : 0 ≤ dst) :
    0 ≤ shortfall src dst vs := by
  induction vs with
  | nil => simp [shortfall, exact]
  | cons v vs ih =>
    rw [List.forall_mem_cons] at h
    obtain ⟨hv, hvs⟩ := h
    have hone := exact_add_exact_le hv (List.sum_nonneg hvs) hsrc hdst
    have hrest := ih hvs
    rw [shortfall_cons]
    omega

end Rate

/-! ## Running sums -/

namespace Duration

variable {b : Timebase}

/-- The sum of a list of durations, formed from the front and refused as soon as a running sum does
not fit. -/
def total? (ds : List (Duration b)) : Option (Duration b) := ds.foldlM add? 0

/-- The running sums of a longer list: each of them starts with the first count. -/
lemma forall_fits_cons_iff {d : Duration b} {ds : List (Duration b)} {start : ℤ} (h : Fits start) :
    (∀ parts, parts <+: d :: ds → Fits (start + (parts.map toInt).sum)) ↔
      ∀ parts, parts <+: ds → Fits (start + d.toInt + (parts.map toInt).sum) := by
  constructor
  · intro hfits parts hparts
    have hcons := hfits (d :: parts) ((List.prefix_cons_inj d).2 hparts)
    rwa [List.map_cons, List.sum_cons, ← Int.add_assoc] at hcons
  · intro hfits parts hparts
    rcases List.prefix_cons_iff.1 hparts with rfl | ⟨rest, rfl, hrest⟩
    · simpa using h
    · rw [List.map_cons, List.sum_cons, ← Int.add_assoc]
      exact hfits rest hrest

lemma foldlM_add?_eq_some_iff {ds : List (Duration b)} {start total : Duration b} :
    ds.foldlM add? start = some total ↔
      (∀ parts, parts <+: ds → Fits (start.toInt + (parts.map toInt).sum)) ∧
        total.toInt = start.toInt + (ds.map toInt).sum := by
  induction ds generalizing start with
  | nil => simp [start.fits, toInt_inj, eq_comm]
  | cons d ds ih =>
    rw [forall_fits_cons_iff start.fits, List.foldlM_cons, Option.bind_eq_bind,
      Option.bind_eq_some_iff, List.map_cons, List.sum_cons, ← Int.add_assoc]
    simp only [ih, add?_eq_some_iff]
    constructor
    · rintro ⟨next, hnext, hrest⟩
      rwa [hnext] at hrest
    · intro hrest
      have hfirst : Fits (start.toInt + d.toInt) := by
        simpa using hrest.1 [] List.nil_prefix
      obtain ⟨next, hnext⟩ : ∃ next : Duration b, next.toInt = start.toInt + d.toInt :=
        exists_toInt_eq hfirst
      rw [← hnext] at hrest
      exact ⟨next, hnext, hrest⟩

/-- **A sum is refused only when one of its running sums does not fit.** -/
lemma total?_eq_some_iff {ds : List (Duration b)} {total : Duration b} :
    total? ds = some total ↔
      (∀ parts, parts <+: ds → Fits (parts.map toInt).sum) ∧
        total.toInt = (ds.map toInt).sum := by
  rw [total?, foldlM_add?_eq_some_iff]
  simp only [toInt_zero, Int.zero_add]

lemma exists_total? {ds : List (Duration b)}
    (h : ∀ parts, parts <+: ds → Fits (parts.map toInt).sum) :
    ∃ total, total? ds = some total ∧ total.toInt = (ds.map toInt).sum := by
  obtain ⟨total, htotal⟩ : ∃ total : Duration b, total.toInt = (ds.map toInt).sum :=
    exists_toInt_eq (h ds List.prefix_rfl)
  exact ⟨total, total?_eq_some_iff.2 ⟨h, htotal⟩, htotal⟩

/-- The conversion of a sum, told by the conversions of its parts. -/
lemma toInt_fromNanos_eq_add_shortfall {ds : List (Duration .nanosecond)}
    {total : Duration .nanosecond} {rate : Int64} (hpos : 0 < rate.toInt)
    (hle : rate.toInt ≤ 1000000000) (h : total.toInt = (ds.map toInt).sum) :
    (Rate.fromNanos total.count rate).toInt =
      (ds.map fun d => (Rate.fromNanos d.count rate).toInt).sum +
        Rate.shortfall 1000000000 rate.toInt (ds.map toInt) := by
  have hparts : (ds.map fun d => (Rate.fromNanos d.count rate).toInt) =
      (ds.map toInt).map (Rate.exact · 1000000000 rate.toInt) := by
    rw [List.map_map]
    exact List.map_congr_left fun d _ => Rate.toInt_fromNanos d.count hpos hle
  have htotal : (Rate.fromNanos total.count rate).toInt =
      Rate.exact total.toInt 1000000000 rate.toInt := Rate.toInt_fromNanos total.count hpos hle
  rw [htotal, hparts, Rate.shortfall, ← h]
  omega

end Duration

/-! ## Timestamps

The ticks that nanoseconds reach are so few that neither a sum nor a difference of two of them
leaves the range. -/

namespace Timestamp

open Rate (reachable)

variable {t u : Timestamp .nanosecond} {d : Duration .nanosecond}

lemma fits_of_mem_reachable {m n : ℤ} (hm : m ∈ reachable) (hn : n ∈ reachable) :
    Fits (m + n) ∧ Fits (m - n) := by
  obtain ⟨hmlow, hmup⟩ := hm
  obtain ⟨hnlow, hnup⟩ := hn
  unfold Fits
  omega

lemma exists_since?_toTicks (t u : Timestamp .nanosecond) :
    ∃ e, t.toTicks.since? u.toTicks = some e ∧ e.toInt = t.toTicks.toInt - u.toTicks.toInt := by
  obtain ⟨e, he⟩ : ∃ e : Duration .tick, e.toInt = t.toTicks.toInt - u.toTicks.toInt :=
    Duration.exists_toInt_eq (fits_of_mem_reachable (toInt_toTicks_mem_reachable t)
      (toInt_toTicks_mem_reachable u)).2
  exact ⟨e, since?_eq_some_iff.2 he, he⟩

lemma exists_add?_toTicks (t : Timestamp .nanosecond) (d : Duration .nanosecond) :
    ∃ n, t.toTicks.add? d.toTicks = some n ∧ n.toInt = t.toTicks.toInt + d.toTicks.toInt := by
  have hd : d.toTicks.toInt ∈ reachable := by
    rw [Duration.toInt_toTicks]
    exact Rate.exact_nanos_mem_reachable d.fits
  obtain ⟨n, hn⟩ : ∃ n : Timestamp .tick, n.toInt = t.toTicks.toInt + d.toTicks.toInt :=
    exists_toInt_eq (fits_of_mem_reachable (toInt_toTicks_mem_reachable t) hd).1
  exact ⟨n, add?_eq_some_iff.2 hn, hn⟩

lemma abs_sub_toTicks_sub_le (h : t.since? u = some d) :
    |t.toTicks.toInt - u.toTicks.toInt - d.toTicks.toInt| ≤ 1 := by
  rw [toInt_toTicks, toInt_toTicks, Duration.toInt_toTicks, since?_eq_some_iff.1 h, abs_sub_comm]
  exact Rate.abs_exact_sub_sub_le _ _ (by decide) (by decide)

lemma abs_add_toTicks_sub_le (h : t.add? d = some u) :
    |t.toTicks.toInt + d.toTicks.toInt - u.toTicks.toInt| ≤ 1 := by
  rw [toInt_toTicks, toInt_toTicks, Duration.toInt_toTicks, add?_eq_some_iff.1 h, abs_sub_comm]
  exact Rate.abs_exact_add_sub_le _ _ (by decide) (by decide)

end Timestamp

/-! ## The whole statement -/

/-- **Adding converted durations loses less than one unit for each of them.**  In any timescale of
at most one unit for each nanosecond, a list of `n` durations whose running sums fit has a total,
and the conversion of the total differs from the exact sum of the conversions by at most `n - 1`; it
is not below that sum when no duration is negative.  Likewise for ticks: the ticks of two timestamps
always have a difference, at most one tick away from the ticks of the difference when that fits,
and a timestamp and a duration whose sum fits have ticks whose sum is at most one tick away. -/
theorem Duration.sum_of_conversions_drift :
    (∀ (rate : Int64) (ds : List (Duration .nanosecond)), 0 < rate.toInt →
      rate.toInt ≤ 1000000000 → ds ≠ [] →
      (∀ parts, parts <+: ds → Fits (parts.map Duration.toInt).sum) →
      ∃ total, Duration.total? ds = some total ∧ total.toInt = (ds.map Duration.toInt).sum ∧
        ∃ lost : ℤ, (Rate.fromNanos total.count rate).toInt =
            (ds.map fun d => (Rate.fromNanos d.count rate).toInt).sum + lost ∧
          |lost| ≤ ds.length - 1 ∧ ((∀ d ∈ ds, 0 ≤ d.toInt) → 0 ≤ lost)) ∧
    (∀ t u : Timestamp .nanosecond, ∃ e, t.toTicks.since? u.toTicks = some e ∧
      ∀ d, t.since? u = some d → |e.toInt - d.toTicks.toInt| ≤ 1) ∧
    (∀ (t u : Timestamp .nanosecond) (d : Duration .nanosecond), t.add? d = some u →
      ∃ n, t.toTicks.add? d.toTicks = some n ∧ |n.toInt - u.toTicks.toInt| ≤ 1) := by
  refine ⟨?_, ?_, ?_⟩
  · intro rate ds hpos hle hne hfits
    obtain ⟨total, htotal, hsum⟩ := exists_total? hfits
    refine ⟨total, htotal, hsum, _, toInt_fromNanos_eq_add_shortfall hpos hle hsum, ?_, ?_⟩
    · obtain ⟨d, ds, rfl⟩ := List.exists_cons_of_ne_nil hne
      have hcount : |Rate.shortfall 1000000000 rate.toInt (d.toInt :: ds.map toInt)| ≤
          (ds.map toInt).length := Rate.abs_shortfall_cons_le _ _ (by decide) hpos.le
      rw [List.length_map] at hcount
      rwa [List.length_cons, List.map_cons, Nat.cast_succ, add_sub_cancel_right]
    · intro hnonneg
      exact Rate.shortfall_nonneg (List.forall_mem_map.2 hnonneg) (by decide) hpos.le
  · intro t u
    obtain ⟨e, hsince, he⟩ := Timestamp.exists_since?_toTicks t u
    refine ⟨e, hsince, fun d hd => ?_⟩
    rw [he]
    exact Timestamp.abs_sub_toTicks_sub_le hd
  · intro t u d h
    obtain ⟨n, hadd, hn⟩ := Timestamp.exists_add?_toTicks t d
    refine ⟨n, hadd, ?_⟩
    rw [hn]
    exact Timestamp.abs_add_toTicks_sub_le h

/-- Three durations that are all rest: converted one by one they are no tick at all, together they
are two.  Across the epoch a difference and a sum are one tick off. -/
theorem Duration.sum_of_conversions_drift_rests_only :
    (∃ total : Duration .nanosecond,
      Duration.total? [⟨11111⟩, ⟨11111⟩, ⟨11111⟩] = some total ∧ total.toInt = 33333 ∧
      ∃ lost : ℤ, (Rate.fromNanos total.count 90000).toInt = 0 + lost ∧ |lost| ≤ 2 ∧ 0 ≤ lost) ∧
    (∃ e, (⟨11111⟩ : Timestamp .nanosecond).toTicks.since?
        (⟨-1⟩ : Timestamp .nanosecond).toTicks = some e ∧
      |e.toInt - (⟨11112⟩ : Duration .nanosecond).toTicks.toInt| ≤ 1) ∧
    (∃ n, (⟨11111⟩ : Timestamp .nanosecond).toTicks.add?
        (⟨-22223⟩ : Duration .nanosecond).toTicks = some n ∧
      |n.toInt - (⟨-11112⟩ : Timestamp .nanosecond).toTicks.toInt| ≤ 1) := by
  obtain ⟨hlist, hsince, hadd⟩ := Duration.sum_of_conversions_drift
  have hfits : ∀ parts ∈ List.inits [(⟨11111⟩ : Duration .nanosecond), ⟨11111⟩, ⟨11111⟩],
      Fits (parts.map Duration.toInt).sum := by decide
  refine ⟨?_, ?_, hadd _ _ _ (by decide)⟩
  · obtain ⟨total, htotal, hsum, lost, hlost, habs, hnonneg⟩ :=
      hlist 90000 [⟨11111⟩, ⟨11111⟩, ⟨11111⟩] (by decide) (by decide) (by decide)
        fun parts hparts => hfits parts ((List.mem_inits _ _).2 hparts)
    exact ⟨total, htotal, hsum, lost, hlost, habs, hnonneg (by decide)⟩
  · obtain ⟨e, he, hdrift⟩ := hsince ⟨11111⟩ ⟨-1⟩
    exact ⟨e, he, hdrift _ (by decide)⟩

end FrameTiming
