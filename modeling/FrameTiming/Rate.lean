import FrameTiming.Timebase
import FrameTiming.Word

/-!
# Converting a count from one rate to another

A count of `v` units at `src` units per second denotes `v / src` seconds, so at `dst` units per
second it is the rational number `v * dst / src`.  `Rate.exact` is that number truncated toward
zero, over unbounded integers; it is what every conversion here is measured against.

The direct formula overflows long before its result does: a nanosecond count times 90 000 leaves
64 bits before its second day is over.  The conversions therefore scale whole seconds and the
remaining part of a second separately.

* `Rate.convert` — machine arithmetic throughout, no check.  Meant for `dst ≤ src`, where the
  result is no larger than the count.
* `Rate.convert?` — every step checked; the product in the remainder part is exact, so only a
  result that does not fit is refused.
* `Rate.NoOverflow` — what makes the check unnecessary.
* `Rate.fromNanos`, `Rate.fromNanos?`, `Rate.toNanos?` — the same with the nanosecond rate on one
  side.

**Why splitting is harmless.**  `exact_eq_split`: the whole part and the remainder part have the
same sign, so truncating the remainder part alone truncates the whole number.
-/

namespace FrameTiming.Rate

/-! ## The exact conversion -/

/-- The exact conversion: `v * dst / src`, truncated toward zero. -/
def exact (v src dst : Int) : Int := (v * dst).tdiv src

/-- The split of a non-negative count. -/
theorem exact_eq_split_of_nonneg {v src dst : Int} (hv : 0 ≤ v) (hsrc : 0 < src)
    (hdst : 0 ≤ dst) :
    exact v src dst = v.tdiv src * dst + (v.tmod src * dst).tdiv src := by
  have hmod : 0 ≤ v % src := Int.emod_nonneg v (Int.ne_of_gt hsrc)
  rw [exact, Int.tdiv_eq_ediv_of_nonneg (Int.mul_nonneg hv hdst),
    Int.tdiv_eq_ediv_of_nonneg hv, Int.tmod_eq_emod_of_nonneg hv,
    Int.tdiv_eq_ediv_of_nonneg (Int.mul_nonneg hmod hdst)]
  have hv' : v * dst = v % src * dst + v / src * dst * src := by
    conv => lhs; rw [← Int.emod_add_mul_ediv v src]
    rw [Int.add_mul, Int.mul_comm src, Int.mul_right_comm]
  rw [hv', Int.add_mul_ediv_right _ _ (Int.ne_of_gt hsrc), Int.add_comm]

/-- **Splitting off whole seconds is exact.**  Scaling the whole seconds and the truncated
remainder separately gives the truncation of the whole. -/
theorem exact_eq_split {v src dst : Int} (hsrc : 0 < src) (hdst : 0 ≤ dst) :
    exact v src dst = v.tdiv src * dst + (v.tmod src * dst).tdiv src := by
  rcases Int.le_total 0 v with hv | hv
  · exact exact_eq_split_of_nonneg hv hsrc hdst
  · have hneg := exact_eq_split_of_nonneg (v := -v) (by omega) hsrc hdst
    simp only [exact, Int.neg_mul, Int.neg_tdiv, Int.neg_tmod] at hneg
    rw [exact]
    omega

/-! ## Conversion of words -/

/-- Converts a count by machine arithmetic: whole seconds, then the remainder.  Nothing is
checked; the caller vouches that the result and both products fit. -/
def convert (v src dst : Int64) : Int64 :=
  v / src * dst + v % src * dst / src

/-- The part of a conversion below one second.  The product is formed over the integers, since
it may leave 64 bits; the quotient is smaller than `dst` and so fits. -/
def remainderPart (v src dst : Int64) : Int64 :=
  Int64.ofInt (((v % src).toInt * dst.toInt).tdiv src.toInt)

/-- Converts a count between two positive rates, refused when the result does not fit or when a
rate is not positive. -/
def convert? (v src dst : Int64) : Option Int64 :=
  if src ≤ 0 ∨ dst ≤ 0 then none
  else do
    let whole ← Word.mul? (v / src) dst
    Word.add? whole (remainderPart v src dst)

/-- Nanoseconds to units of `rate`, unchecked. -/
def fromNanos (nanos rate : Int64) : Int64 := convert nanos nanosPerSecond rate

/-- Nanoseconds to units of `rate`. -/
def fromNanos? (nanos rate : Int64) : Option Int64 := convert? nanos nanosPerSecond rate

/-- Units of `rate` to nanoseconds. -/
def toNanos? (count rate : Int64) : Option Int64 := convert? count rate nanosPerSecond

/-- Truncated division and its remainder through division rounded down: the same from zero on,
and the opposite of the opposite count's below it. -/
theorem tdiv_tmod_eq (v src : Int) :
    (0 ≤ v → v.tdiv src = v / src ∧ v.tmod src = v % src) ∧
      (v ≤ 0 → v.tdiv src = -(-v / src) ∧ v.tmod src = -(-v % src)) := by
  refine ⟨fun hv => ⟨Int.tdiv_eq_ediv_of_nonneg hv, Int.tmod_eq_emod_of_nonneg hv⟩, fun hv => ?_⟩
  have hneg : 0 ≤ -v := by omega
  rw [← Int.tdiv_eq_ediv_of_nonneg hneg, ← Int.tmod_eq_emod_of_nonneg hneg, Int.neg_tdiv,
    Int.neg_tmod, Int.neg_neg, Int.neg_neg]
  exact ⟨rfl, rfl⟩

/-! ## What the parts of a split are

The whole part and the remainder part of a count have its sign.  So the whole part never
overshoots the result, and when it does not fit, the result does not fit either. -/

/-- A non-negative count is its whole part and a remainder below `src`. -/
theorem split_of_nonneg {v src : Int} (hv : 0 ≤ v) (hsrc : 0 < src) :
    0 ≤ v.tdiv src ∧ 0 ≤ v.tmod src ∧ v.tmod src < src ∧ v.tdiv src * src + v.tmod src = v := by
  refine ⟨Int.tdiv_nonneg hv (Int.le_of_lt hsrc), Int.tmod_nonneg _ hv, Int.tmod_lt_of_pos v hsrc,
    ?_⟩
  rw [Int.mul_comm]
  exact Int.mul_tdiv_add_tmod v src

/-- A remainder below `src` scales to less than `dst`. -/
theorem scaled_of_nonneg {r src dst : Int} (hr : 0 ≤ r) (hlt : r < src) (hdst : 0 < dst) :
    0 ≤ (r * dst).tdiv src ∧ (r * dst).tdiv src < dst := by
  have hsrc : 0 < src := by omega
  have hprod : 0 ≤ r * dst := Int.mul_nonneg hr (Int.le_of_lt hdst)
  refine ⟨Int.tdiv_nonneg hprod (Int.le_of_lt hsrc), ?_⟩
  rw [Int.tdiv_eq_ediv_of_nonneg hprod]
  refine Int.ediv_lt_of_lt_mul hsrc ?_
  rw [Int.mul_comm dst]
  exact Int.mul_lt_mul_of_pos_right hlt hdst

/-- The scaled remainder of a count has the sign of the count and stays below `dst`. -/
theorem scaled_tmod {v src dst : Int} (hsrc : 0 < src) (hdst : 0 < dst) :
    -dst < (v.tmod src * dst).tdiv src ∧ (v.tmod src * dst).tdiv src < dst ∧
      (0 ≤ v → 0 ≤ (v.tmod src * dst).tdiv src) ∧
      (v ≤ 0 → (v.tmod src * dst).tdiv src ≤ 0) := by
  rcases Int.le_total 0 v with hv | hv
  · obtain ⟨-, hr, hlt, -⟩ := split_of_nonneg hv hsrc
    have := scaled_of_nonneg hr hlt hdst
    refine ⟨by omega, by omega, fun _ => this.1, fun h => ?_⟩
    have hzero : v = 0 := by omega
    simp [hzero]
  · obtain ⟨-, hr, hlt, -⟩ := split_of_nonneg (v := -v) (by omega) hsrc
    have := scaled_of_nonneg hr hlt hdst
    simp only [Int.neg_tmod, Int.neg_mul, Int.neg_tdiv] at this
    refine ⟨by omega, by omega, fun h => ?_, fun _ => by omega⟩
    have hzero : v = 0 := by omega
    simp [hzero]

/-- The whole part of a conversion has the sign of the count. -/
theorem whole_sign {v src dst : Int} (hsrc : 0 < src) (hdst : 0 < dst) :
    (0 ≤ v → 0 ≤ v.tdiv src * dst) ∧ (v ≤ 0 → v.tdiv src * dst ≤ 0) := by
  constructor <;> intro hv
  · exact Int.mul_nonneg (split_of_nonneg hv hsrc).1 (Int.le_of_lt hdst)
  · have := Int.mul_nonneg (split_of_nonneg (v := -v) (by omega) hsrc).1 (Int.le_of_lt hdst)
    rw [Int.neg_tdiv, Int.neg_mul] at this
    omega

/-- **A whole part that does not fit belongs to a result that does not fit.** -/
theorem fits_whole {v src dst : Int} (hsrc : 0 < src) (hdst : 0 < dst)
    (h : Fits (exact v src dst)) : Fits (v.tdiv src * dst) := by
  rw [exact_eq_split hsrc (Int.le_of_lt hdst)] at h
  have hw := whole_sign (v := v) hsrc hdst
  have hr := scaled_tmod (v := v) hsrc hdst
  unfold Fits at *
  rcases Int.le_total 0 v with hv | hv
  · have := hw.1 hv
    have := hr.2.2.1 hv
    omega
  · have := hw.2 hv
    have := hr.2.2.2 hv
    omega

/-! ## The checked conversion is exact -/

/-- The remainder part is what it is over the integers. -/
theorem toInt_remainderPart {v src dst : Int64} (hsrc : 0 < src.toInt) (hdst : 0 < dst.toInt) :
    (remainderPart v src dst).toInt = (v.toInt.tmod src.toInt * dst.toInt).tdiv src.toInt := by
  rw [remainderPart, Int64.toInt_mod]
  have hr := scaled_tmod (v := v.toInt) hsrc hdst
  have hfits := fits_toInt dst
  refine Word.toInt_ofInt ?_
  unfold Fits at *
  omega

/-- **The checked conversion is exact.**  It refuses nothing but a result that does not fit. -/
theorem convert?_eq_ofInt? {v src dst : Int64} (hsrc : 0 < src.toInt) (hdst : 0 < dst.toInt) :
    convert? v src dst = Word.ofInt? (exact v.toInt src.toInt dst.toInt) := by
  have hpos : ¬ (src ≤ 0 ∨ dst ≤ 0) := by
    simp only [Int64.le_iff_toInt_le, Int64.toInt_zero]
    omega
  have hsplit := exact_eq_split (v := v.toInt) hsrc (Int.le_of_lt hdst)
  rw [convert?, if_neg hpos, Word.mul?_eq_ofInt?, Word.toInt_div_of_pos hsrc]
  cases hwhole : Word.ofInt? (v.toInt.tdiv src.toInt * dst.toInt) with
  | none =>
    have hexact : ¬ Fits (exact v.toInt src.toInt dst.toInt) := fun h =>
      Word.ofInt?_eq_none_iff.1 hwhole (fits_whole hsrc hdst h)
    rw [Word.ofInt?_eq_none_iff.2 hexact]
    rfl
  | some whole =>
    rw [hsplit, ← Word.ofInt?_eq_some_iff.1 hwhole, ← toInt_remainderPart hsrc hdst]
    exact Word.add?_eq_ofInt? _ _

/-- A rate that is not positive is refused. -/
theorem convert?_eq_none_of_nonpos {v src dst : Int64} (h : src.toInt ≤ 0 ∨ dst.toInt ≤ 0) :
    convert? v src dst = none := by
  refine if_pos ?_
  simp only [Int64.le_iff_toInt_le, Int64.toInt_zero]
  exact h

/-! ## The unchecked conversion is exact where nothing overflows -/

/-- Converting to a lower rate does not make a count larger. -/
theorem exact_le_of_nonneg {v src dst : Int} (hv : 0 ≤ v) (hdst : 0 < dst) (hle : dst ≤ src) :
    exact v src dst ≤ v := by
  have hsrc : 0 < src := by omega
  rw [exact, Int.tdiv_eq_ediv_of_nonneg (Int.mul_nonneg hv (Int.le_of_lt hdst))]
  exact Int.ediv_le_of_le_mul hsrc (Int.mul_le_mul_of_nonneg_left hle hv)

/-- The conversion of the opposite count is the opposite. -/
theorem exact_neg (v src dst : Int) : exact (-v) src dst = -exact v src dst := by
  rw [exact, exact, Int.neg_mul, Int.neg_tdiv]

/-- A conversion keeps the order of counts. -/
theorem exact_mono {v w src dst : Int} (hsrc : 0 < src) (hdst : 0 ≤ dst) (h : v ≤ w) :
    exact v src dst ≤ exact w src dst :=
  Int.tdiv_le_tdiv hsrc (Int.mul_le_mul_of_nonneg_right h hdst)

/-- Converting to a lower rate leaves a word a word. -/
theorem fits_exact {v src dst : Int} (hv : Fits v) (hdst : 0 < dst) (hle : dst ≤ src) :
    Fits (exact v src dst) := by
  have hsrc : 0 ≤ src := by omega
  unfold Fits at *
  rcases Int.le_total 0 v with h | h
  · have hup := exact_le_of_nonneg h hdst hle
    have hlow : 0 ≤ exact v src dst :=
      Int.tdiv_nonneg (Int.mul_nonneg h (Int.le_of_lt hdst)) hsrc
    omega
  · have hup := exact_le_of_nonneg (v := -v) (by omega) hdst hle
    have hlow : 0 ≤ exact (-v) src dst :=
      Int.tdiv_nonneg (Int.mul_nonneg (by omega) (Int.le_of_lt hdst)) hsrc
    rw [exact_neg] at hup hlow
    omega

/-- The product in the remainder part stays below the product of the rates. -/
theorem tmod_mul_bounds {v src dst : Int} (hsrc : 0 < src) (hdst : 0 < dst) :
    -((src - 1) * dst) ≤ v.tmod src * dst ∧ v.tmod src * dst ≤ (src - 1) * dst := by
  have hlt : v.tmod src ≤ src - 1 := by
    have := Int.tmod_lt_of_pos v hsrc
    omega
  have hgt : -(src - 1) ≤ v.tmod src := by
    have := Int.tmod_lt_of_pos (-v) hsrc
    rw [Int.neg_tmod] at this
    omega
  have hnonneg := Int.le_of_lt hdst
  rw [← Int.neg_mul]
  exact ⟨Int.mul_le_mul_of_nonneg_right hgt hnonneg, Int.mul_le_mul_of_nonneg_right hlt hnonneg⟩

/-- **No step of an unchecked conversion overflows.**  The whole part, the product in the remainder
part and the sum of the two parts are what they are over the integers.  The quotients need no
mention: dividing by a positive rate leaves a word a word. -/
structure NoOverflow (v src dst : Int) : Prop where
  whole : Fits (v.tdiv src * dst)
  product : Fits (v.tmod src * dst)
  sum : Fits (v.tdiv src * dst + (v.tmod src * dst).tdiv src)

/-- A target rate that is the lower one keeps the whole part and the sum; only the product in the
remainder part has to be asked about. -/
theorem noOverflow_of_le {v src dst : Int} (hv : Fits v) (hdst : 0 < dst) (hle : dst ≤ src)
    (hprod : (src - 1) * dst < 9223372036854775808) : NoOverflow v src dst := by
  have hsrc : 0 < src := by omega
  have hexact := fits_exact hv hdst hle
  refine ⟨fits_whole hsrc hdst hexact, ?_, ?_⟩
  · have hbounds := tmod_mul_bounds (v := v) hsrc hdst
    unfold Fits
    omega
  · rwa [← exact_eq_split hsrc (Int.le_of_lt hdst)]

/-- **The unchecked conversion is exact** where no step overflows. -/
theorem NoOverflow.toInt_convert {v src dst : Int64} (hsrc : 0 < src.toInt) (hdst : 0 ≤ dst.toInt)
    (h : NoOverflow v.toInt src.toInt dst.toInt) :
    (convert v src dst).toInt = exact v.toInt src.toInt dst.toInt := by
  obtain ⟨hwhole, hproduct, hsum⟩ := h
  have hw : (v / src * dst).toInt = v.toInt.tdiv src.toInt * dst.toInt := by
    rw [← Word.toInt_div_of_pos hsrc] at hwhole ⊢
    exact Word.toInt_mul hwhole
  have hr : (v % src * dst / src).toInt
      = (v.toInt.tmod src.toInt * dst.toInt).tdiv src.toInt := by
    rw [← Int64.toInt_mod] at hproduct ⊢
    rw [Word.toInt_div_of_pos hsrc, Word.toInt_mul hproduct]
  rw [exact_eq_split hsrc hdst]
  rw [← hw, ← hr] at hsum ⊢
  exact Word.toInt_add hsum

/-- **The unchecked conversion is exact** when the target rate is the lower one and the product
in the remainder part fits. -/
theorem toInt_convert {v src dst : Int64} (hdst : 0 < dst.toInt) (hle : dst.toInt ≤ src.toInt)
    (hprod : (src.toInt - 1) * dst.toInt < 9223372036854775808) :
    (convert v src dst).toInt = exact v.toInt src.toInt dst.toInt := by
  have hsrc : 0 < src.toInt := by omega
  exact (noOverflow_of_le (fits_toInt v) hdst hle hprod).toInt_convert hsrc (Int.le_of_lt hdst)

end FrameTiming.Rate
