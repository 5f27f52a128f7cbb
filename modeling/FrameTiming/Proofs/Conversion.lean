import FrameTiming.Rate
import Mathlib.Algebra.Order.Group.Unbundled.Abs
import Mathlib.Algebra.Order.Group.Unbundled.Int
import Mathlib.Tactic.Lemma

/-!
# What the checked conversion answers

`Rate.convert?` scales whole seconds and the rest of a second apart, multiplies the rest in a
wider word and narrows the quotient back.  Four steps can go wrong, and only one question should
decide: does `v * dst / src`, truncated toward zero, fit a word?

**The answer.**  `convert?_eq_some_iff` and `convert?_eq_none_iff` say that nothing else does,
for every count and every pair of rates, and `fromNanos?_eq_some_iff`, `toNanos?_eq_some_iff` say
it for the conversions with the nanosecond rate on one side.

**The steps.**  `abs_tmod_mul_lt` keeps the product of the rest inside a 128-bit word and
`toInt_remainderPart` says that narrowing its quotient changes nothing.  Both are part of
`convert?_isExact`, which collects everything about one conversion.
-/

namespace FrameTiming.Rate

/-- A conversion succeeds with the exact result, and only between positive rates. -/
lemma convert?_eq_some_iff {v src dst r : Int64} :
    convert? v src dst = some r ↔
      0 < src.toInt ∧ 0 < dst.toInt ∧ r.toInt = exact v.toInt src.toInt dst.toInt := by
  by_cases hpos : 0 < src.toInt ∧ 0 < dst.toInt
  · rw [convert?_eq_ofInt? hpos.1 hpos.2, Word.ofInt?_eq_some_iff]
    exact ⟨fun h => ⟨hpos.1, hpos.2, h⟩, fun h => h.2.2⟩
  · rw [convert?_eq_none_of_nonpos (by omega)]
    constructor
    · rintro ⟨⟩
    · rintro ⟨hsrc, hdst, -⟩
      exact absurd ⟨hsrc, hdst⟩ hpos

/-- A conversion is refused for a rate that is not positive or a result that does not fit. -/
lemma convert?_eq_none_iff {v src dst : Int64} :
    convert? v src dst = none ↔
      ¬ (0 < src.toInt ∧ 0 < dst.toInt ∧ Fits (exact v.toInt src.toInt dst.toInt)) := by
  by_cases hpos : 0 < src.toInt ∧ 0 < dst.toInt
  · rw [convert?_eq_ofInt? hpos.1 hpos.2, Word.ofInt?_eq_none_iff]
    simp only [hpos.1, hpos.2, true_and]
  · rw [convert?_eq_none_of_nonpos (by omega)]
    simp only [true_iff]
    rintro ⟨hsrc, hdst, -⟩
    exact hpos ⟨hsrc, hdst⟩

/-! ## The nanosecond rate on one side -/

lemma fromNanos?_eq_some_iff {nanos rate r : Int64} :
    fromNanos? nanos rate = some r ↔
      0 < rate.toInt ∧ r.toInt = exact nanos.toInt 1000000000 rate.toInt := by
  rw [fromNanos?, convert?_eq_some_iff, toInt_nanosPerSecond]
  simp

lemma fromNanos?_eq_none_iff {nanos rate : Int64} :
    fromNanos? nanos rate = none ↔
      ¬ (0 < rate.toInt ∧ Fits (exact nanos.toInt 1000000000 rate.toInt)) := by
  rw [fromNanos?, convert?_eq_none_iff, toInt_nanosPerSecond]
  simp

lemma toNanos?_eq_some_iff {count rate r : Int64} :
    toNanos? count rate = some r ↔
      0 < rate.toInt ∧ r.toInt = exact count.toInt rate.toInt 1000000000 := by
  rw [toNanos?, convert?_eq_some_iff, toInt_nanosPerSecond]
  simp

lemma toNanos?_eq_none_iff {count rate : Int64} :
    toNanos? count rate = none ↔
      ¬ (0 < rate.toInt ∧ Fits (exact count.toInt rate.toInt 1000000000)) := by
  rw [toNanos?, convert?_eq_none_iff, toInt_nanosPerSecond]
  simp

/-! ## The remainder product -/

/-- The product of the rest of a second and the target rate is far inside a 128-bit word, so
forming it there is forming it over the integers. -/
lemma abs_tmod_mul_lt {v src dst : Int64} (hsrc : 0 < src.toInt) (hdst : 0 < dst.toInt) :
    |v.toInt.tmod src.toInt * dst.toInt| < 2 ^ 126 := by
  have hbounds := tmod_mul_bounds (v := v.toInt) hsrc hdst
  have hle : (src.toInt - 1) * dst.toInt ≤ (2 ^ 63 - 1) * (2 ^ 63 - 1) := by
    have hs := (fits_toInt src).2
    have hd := (fits_toInt dst).2
    exact Int.mul_le_mul (by omega) (by omega) (by omega) (by omega)
  rw [abs_lt]
  constructor <;> omega

/-! ## The whole statement -/

/-- **The checked conversion is the exact one, truncated toward zero.**  It has a value exactly
when both rates are positive and the exact result fits a word, and the value is that result; no
intermediate can refuse in its place.  The remainder product fits 128 bits and narrowing its
quotient changes nothing. -/
theorem convert?_isExact (v src dst : Int64) :
    (∀ r, convert? v src dst = some r ↔
      0 < src.toInt ∧ 0 < dst.toInt ∧ r.toInt = exact v.toInt src.toInt dst.toInt) ∧
    (convert? v src dst = none ↔
      ¬ (0 < src.toInt ∧ 0 < dst.toInt ∧ Fits (exact v.toInt src.toInt dst.toInt))) ∧
    (0 < src.toInt → 0 < dst.toInt →
      |v.toInt.tmod src.toInt * dst.toInt| < 2 ^ 126 ∧
      (remainderPart v src dst).toInt = (v.toInt.tmod src.toInt * dst.toInt).tdiv src.toInt) ∧
    (∀ r, fromNanos? v dst = some r ↔
      0 < dst.toInt ∧ r.toInt = exact v.toInt 1000000000 dst.toInt) ∧
    (fromNanos? v dst = none ↔
      ¬ (0 < dst.toInt ∧ Fits (exact v.toInt 1000000000 dst.toInt))) ∧
    (∀ r, toNanos? v src = some r ↔
      0 < src.toInt ∧ r.toInt = exact v.toInt src.toInt 1000000000) ∧
    (toNanos? v src = none ↔
      ¬ (0 < src.toInt ∧ Fits (exact v.toInt src.toInt 1000000000))) := by
  refine ⟨fun r => convert?_eq_some_iff, convert?_eq_none_iff, ?_,
    fun r => fromNanos?_eq_some_iff, fromNanos?_eq_none_iff,
    fun r => toNanos?_eq_some_iff, toNanos?_eq_none_iff⟩
  intro hsrc hdst
  exact ⟨abs_tmod_mul_lt hsrc hdst, toInt_remainderPart hsrc hdst⟩

/-- The last tick count with a nanosecond count: the conversion succeeds, the next one is
refused, and the remainder part that comes out is the exact one. -/
theorem convert?_isExact_last_tick :
    convert? 830103483316929 90000 1000000000 = some 9223372036854766666 ∧
    convert? 830103483316930 90000 1000000000 = none ∧
    (remainderPart 830103483316929 90000 1000000000).toInt =
      (Int.tmod 830103483316929 90000 * 1000000000).tdiv 90000 := by
  refine ⟨?_, ?_, ?_⟩
  · exact ((convert?_isExact 830103483316929 90000 1000000000).1 _).2 (by decide)
  · exact (convert?_isExact 830103483316930 90000 1000000000).2.1.2 (by decide)
  · exact ((convert?_isExact 830103483316929 90000 1000000000).2.2.1 (by decide)
      (by decide)).2

end FrameTiming.Rate
