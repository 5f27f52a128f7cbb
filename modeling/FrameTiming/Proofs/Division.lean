import FrameTiming.Duration
import Mathlib.Algebra.Order.Group.Unbundled.Abs
import Mathlib.Algebra.Order.Group.Unbundled.Int
import Mathlib.Tactic.Lemma

/-!
# Dividing a duration and putting it together again

Dividing one duration by another gives a ratio and a rest, from two operations that refuse on their
own.  They refuse together, and what they give can be multiplied and added again: no step of the way
back leaves the range, although none of them has been asked about.

* `Word.fits_mul_tdiv` — the part of a word that a divisor takes out lies between zero and the word.
* `Word.tmod_abs_lt_and_sign` — the rest is smaller than the divisor and points the way of the
  dividend.
* `Duration.exists_recombined` — multiplying and adding leads back.
* `Duration.divides_mul?` — a product divides without a rest, and never by the one division that has
  no answer.
-/

namespace FrameTiming

/-! ## Over the integers -/

namespace Word

/-- What is taken out of a word can be put into one. -/
lemma fits_mul_tdiv {a : ℤ} (b : ℤ) (ha : Fits a) : Fits (b * a.tdiv b) := by
  -- the rest lies between zero and `a`, so what is left of `a` without it does too
  have hsum := Int.mul_tdiv_add_tmod a b
  have hle : (a.tmod b).natAbs ≤ a.natAbs := by
    rw [Int.natAbs_tmod]
    exact Nat.mod_le _ _
  have hup : 0 ≤ a → 0 ≤ a.tmod b := Int.tmod_nonneg b
  have hdown : 0 ≤ -a → 0 ≤ -a.tmod b := by
    rw [← Int.neg_tmod]
    exact Int.tmod_nonneg b
  unfold Fits at *
  omega

lemma tmod_abs_lt_and_sign (a : ℤ) {b : ℤ} (hb : b ≠ 0) :
    |a.tmod b| < |b| ∧ (a.tmod b = 0 ∨ (a.tmod b).sign = a.sign) := by
  constructor
  · rw [Int.abs_eq_natAbs, Int.abs_eq_natAbs, Int.natAbs_tmod]
    exact_mod_cast Nat.mod_lt _ (Int.natAbs_pos.2 hb)
  · rw [Int.sign_tmod, ← Int.dvd_iff_tmod_eq_zero]
    split_ifs with hdvd
    · exact Or.inl hdvd
    · exact Or.inr rfl

end Word

namespace Duration

variable {b : Timebase} {d e f p r : Duration b} {k q : Int64}

/-! ## A ratio and a rest -/

/-- **A ratio and a rest lead back.** -/
lemma exists_recombined (hq : d.ratio? e = some q) (hr : d.rem? e = some r) :
    ∃ p, e.mul? q = some p ∧ p.add? r = some d := by
  obtain ⟨-, hqInt⟩ := ratio?_eq_some_iff.1 hq
  obtain ⟨-, hrInt⟩ := rem?_eq_some_iff.1 hr
  obtain ⟨p, hp⟩ : ∃ p : Duration b, p.toInt = e.toInt * d.toInt.tdiv e.toInt :=
    exists_toInt_eq (Word.fits_mul_tdiv e.toInt d.fits)
  refine ⟨p, ?_, ?_⟩
  · rw [mul?_eq_some_iff, hqInt, hp]
  · rw [add?_eq_some_iff, hp, hrInt, Int.mul_tdiv_add_tmod]

lemma rest_abs_lt_and_sign (hr : d.rem? e = some r) :
    |r.toInt| < |e.toInt| ∧ (r.toInt = 0 ∨ r.toInt.sign = d.toInt.sign) := by
  obtain ⟨hdivisible, hrInt⟩ := rem?_eq_some_iff.1 hr
  have he : e.toInt ≠ 0 := fun h => hdivisible (Word.indivisible_iff.2 (Or.inl h))
  rw [hrInt]
  exact Word.tmod_abs_lt_and_sign d.toInt he

/-! ## A product -/

/-- **A product divides without a rest.**  The division without an answer would need a factor that
is no word. -/
lemma divides_mul? (hf : f.toInt ≠ 0) (h : f.mul? k = some p) :
    p.ratio? f = some k ∧ p.rem? f = some 0 := by
  have hp := mul?_eq_some_iff.1 h
  have hdivisible : ¬ Word.Indivisible p.count f.count := by
    rw [Word.indivisible_iff]
    rintro (hzero | ⟨hleast, hneg⟩)
    · exact hf hzero
    · -- `-2^63` is `-1` times `2^63`
      have hk := k.toInt_lt
      change p.toInt = _ at hleast
      change f.toInt = _ at hneg
      rw [hp, hneg] at hleast
      omega
  rw [ratio?_eq_some_iff, rem?_eq_some_iff, hp, Int.mul_tdiv_cancel_left _ hf, Int.mul_tmod_right]
  exact ⟨⟨hdivisible, rfl⟩, hdivisible, rfl⟩

/-! ## The whole statement -/

/-- **Division and multiplication undo each other.**  A ratio and a rest are refused together, and
only for a divisor of no units and for the least duration divided by minus one unit.  Where there
are both, the divisor times the ratio exists, and with the rest added it is the dividend again; the
rest is smaller than the divisor, and it is zero or points the way of the dividend.  Dividing by a
number gives the ratio to as many units.  Conversely, a product of a duration that is not zero has
the factor as its ratio and no rest. -/
theorem division_recombines (b : Timebase) :
    (∀ d e : Duration b, (d.ratio? e = none ↔ d.rem? e = none) ∧
      (d.ratio? e = none ↔ e.toInt = 0 ∨ (d.toInt = -2 ^ 63 ∧ e.toInt = -1))) ∧
    (∀ (d e r : Duration b) (q : Int64), d.ratio? e = some q → d.rem? e = some r →
      (∃ p, e.mul? q = some p ∧ p.add? r = some d) ∧
        |r.toInt| < |e.toInt| ∧ (r.toInt = 0 ∨ r.toInt.sign = d.toInt.sign)) ∧
    (∀ d e : Duration b, (d.div? e.count).map count = d.ratio? e) ∧
    (∀ (f p : Duration b) (k : Int64), f.toInt ≠ 0 → f.mul? k = some p →
      p.ratio? f = some k ∧ p.rem? f = some 0) := by
  refine ⟨?_, ?_, ?_, ?_⟩
  · intro d e
    rw [ratio?_eq_none_iff, rem?_eq_none_iff]
    exact ⟨Iff.rfl, Word.indivisible_iff⟩
  · intro d e r q hq hr
    exact ⟨exists_recombined hq hr, rest_abs_lt_and_sign hr⟩
  · intro d e
    exact map_count_ofCount? _
  · intro f p k hf h
    exact divides_mul? hf h

/-- The least duration divided by the greatest: once backwards, and one unit is left.  The least
duration taken once is itself, and divides itself. -/
theorem division_recombines_range_ends :
    ((⟨Int64.minValue⟩ : Duration .tick).ratio? ⟨Int64.maxValue⟩ = some (-1) ∧
      (⟨Int64.minValue⟩ : Duration .tick).rem? ⟨Int64.maxValue⟩ = some ⟨-1⟩ ∧
      ∃ p, (⟨Int64.maxValue⟩ : Duration .tick).mul? (-1) = some p ∧
        p.add? ⟨-1⟩ = some ⟨Int64.minValue⟩) ∧
    ((⟨Int64.minValue⟩ : Duration .tick).mul? 1 = some ⟨Int64.minValue⟩ ∧
      (⟨Int64.minValue⟩ : Duration .tick).ratio? ⟨Int64.minValue⟩ = some 1) := by
  obtain ⟨-, hback, -, hforth⟩ := division_recombines .tick
  have hq : (⟨Int64.minValue⟩ : Duration .tick).ratio? ⟨Int64.maxValue⟩ = some (-1) := by decide
  have hr : (⟨Int64.minValue⟩ : Duration .tick).rem? ⟨Int64.maxValue⟩ = some ⟨-1⟩ := by decide
  have hp : (⟨Int64.minValue⟩ : Duration .tick).mul? 1 = some ⟨Int64.minValue⟩ := by decide
  refine ⟨⟨hq, hr, (hback _ _ _ _ hq hr).1⟩, hp, ?_⟩
  exact (hforth _ _ _ (by decide) hp).1

end Duration

end FrameTiming
