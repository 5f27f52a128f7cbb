import FrameTiming.Duration
import FrameTiming.Proofs.Conversion

/-!
# Where the checks are not needed

`Rate.convert` does in machine words what `Rate.convert?` does with a check at every step.  It is
meant for a target rate that is the lower one, since the result is then no larger than the count.
That keeps the result in a word, but not yet the product that is formed on the way to it.

* `forall_noOverflow_iff` — with such rates every count is safe exactly when `(src - 1) * dst` is
  a word.
* `convert?_eq_some_convert` — where no step overflows there is nothing to refuse, and both
  conversions give the same word.
* `noOverflow_nanos`, `noOverflow_milliseconds` — the conversions in use are safe on all words.

**The condition cannot be relaxed.**  `src - 1` is the largest remainder that a second leaves, and
it is a count of its own: one unit less than a second, all of which is remainder.
-/

namespace FrameTiming.Rate

/-! ## The exact condition -/

/-- One unit less than a second is all remainder. -/
lemma exists_tmod_eq_pred {src : Int64} (hsrc : 0 < src.toInt) :
    ∃ v : Int64, v.toInt.tmod src.toInt = src.toInt - 1 := by
  have hfits : Fits (src.toInt - 1) := by
    have := fits_toInt src
    unfold Fits at *
    omega
  refine ⟨Int64.ofInt (src.toInt - 1), ?_⟩
  rw [Word.toInt_ofInt hfits]
  exact Int.tmod_eq_of_lt (by omega) (by omega)

/-- **The rates at which no count overflows.** -/
lemma forall_noOverflow_iff {src dst : Int64} (hdst : 0 < dst.toInt)
    (hle : dst.toInt ≤ src.toInt) :
    (∀ v : Int64, NoOverflow v.toInt src.toInt dst.toInt) ↔
      (src.toInt - 1) * dst.toInt ≤ 2 ^ 63 - 1 := by
  have hsrc : 0 < src.toInt := by omega
  constructor
  · intro h
    obtain ⟨v, hv⟩ := exists_tmod_eq_pred hsrc
    have hproduct := (h v).product
    rw [hv] at hproduct
    unfold Fits at hproduct
    omega
  · intro hprod v
    exact noOverflow_of_le (fits_toInt v) hdst hle (by omega)

/-- Where no step overflows, the checks find nothing. -/
lemma convert?_eq_some_convert {v src dst : Int64} (hsrc : 0 < src.toInt) (hdst : 0 < dst.toInt)
    (h : NoOverflow v.toInt src.toInt dst.toInt) : convert? v src dst = some (convert v src dst) :=
  convert?_eq_some_iff.2 ⟨hsrc, hdst, h.toInt_convert hsrc hdst.le⟩

/-! ## The conversions in use -/

/-- Nanoseconds to any rate of at most one unit for each of them. -/
lemma noOverflow_nanos (nanos : Int64) {rate : Int64} (hpos : 0 < rate.toInt)
    (hle : rate.toInt ≤ 1000000000) : NoOverflow nanos.toInt 1000000000 rate.toInt :=
  noOverflow_of_le (fits_toInt nanos) hpos hle (by omega)

lemma fromNanos?_eq_some_fromNanos (nanos : Int64) {rate : Int64} (hpos : 0 < rate.toInt)
    (hle : rate.toInt ≤ 1000000000) : fromNanos? nanos rate = some (fromNanos nanos rate) :=
  convert?_eq_some_convert (by decide) hpos (noOverflow_nanos nanos hpos hle)

lemma toInt_fromNanos (nanos : Int64) {rate : Int64} (hpos : 0 < rate.toInt)
    (hle : rate.toInt ≤ 1000000000) :
    (fromNanos nanos rate).toInt = exact nanos.toInt 1000000000 rate.toInt :=
  (noOverflow_nanos nanos hpos hle).toInt_convert (by decide) hpos.le

/-- Ticks to milliseconds. -/
lemma noOverflow_milliseconds (d : Duration .tick) : NoOverflow d.toInt 90000 1000 :=
  noOverflow_of_le d.fits (by decide) (by decide) (by decide)

/-! ## The whole statement -/

/-- **When the unchecked conversion can stand in for the checked one.**  To a rate no higher than
the source rate, no step overflows on any count exactly when `(src - 1) * dst` is a word, and the
two conversions then agree on all counts.  The order of the rates alone does not suffice.  It does
for nanoseconds in any timescale of at most one unit for each, and for the milliseconds of a tick
duration. -/
theorem convert_noOverflow_iff :
    (∀ src dst : Int64, 0 < dst.toInt → dst.toInt ≤ src.toInt →
      ((∀ v : Int64, NoOverflow v.toInt src.toInt dst.toInt) ↔
        (src.toInt - 1) * dst.toInt ≤ 2 ^ 63 - 1) ∧
      ((src.toInt - 1) * dst.toInt ≤ 2 ^ 63 - 1 →
        ∀ v, convert? v src dst = some (convert v src dst))) ∧
    (∃ v src dst : Int64, 0 < dst.toInt ∧ dst.toInt ≤ src.toInt ∧
      ¬ Fits (v.toInt.tmod src.toInt * dst.toInt) ∧
      convert? v src dst ≠ some (convert v src dst)) ∧
    (∀ nanos rate : Int64, 0 < rate.toInt → rate.toInt ≤ 1000000000 →
      NoOverflow nanos.toInt 1000000000 rate.toInt ∧
      fromNanos? nanos rate = some (fromNanos nanos rate)) ∧
    (∀ d : Duration .tick, NoOverflow d.toInt 90000 1000 ∧
      convert? d.count ticksPerSecond 1000 = some d.milliseconds) := by
  refine ⟨?_, ?_, ?_, ?_⟩
  · intro src dst hdst hle
    have hiff := forall_noOverflow_iff hdst hle
    refine ⟨hiff, fun hprod v => ?_⟩
    exact convert?_eq_some_convert (hdst.trans_le hle) hdst (hiff.2 hprod v)
  · -- the product wraps around to a negative one
    exact ⟨4611686018427387903, 4611686018427387904, 4611686018427387904, by decide⟩
  · intro nanos rate hpos hle
    exact ⟨noOverflow_nanos nanos hpos hle, fromNanos?_eq_some_fromNanos nanos hpos hle⟩
  · intro d
    have hsafe := noOverflow_milliseconds d
    exact ⟨hsafe, convert?_eq_some_convert (by decide) (by decide) hsafe⟩

/-- Two equal rates on either side of the limit, whose square root they are: at the lower one no
count overflows, the least included, and at the higher one some do. -/
theorem convert_noOverflow_iff_square_root :
    (∀ v : Int64, NoOverflow v.toInt 3037000500 3037000500) ∧
    convert? Int64.minValue 3037000500 3037000500 =
      some (convert Int64.minValue 3037000500 3037000500) ∧
    ¬ (∀ v : Int64, NoOverflow v.toInt 3037000501 3037000501) ∧
    fromNanos? Int64.minValue 1000000000 = some (fromNanos Int64.minValue 1000000000) := by
  obtain ⟨hiff, hagree⟩ := convert_noOverflow_iff.1 3037000500 3037000500 (by decide) (by decide)
  refine ⟨hiff.2 (by decide), hagree (by decide) Int64.minValue, ?_, ?_⟩
  · intro h
    have hprod := (convert_noOverflow_iff.1 3037000501 3037000501 (by decide) (by decide)).1.1 h
    exact absurd hprod (by decide)
  · exact (convert_noOverflow_iff.2.2.1 Int64.minValue 1000000000 (by decide) (by decide)).2

end FrameTiming.Rate
