import FrameTiming.Binary64
import Mathlib.Algebra.Order.Field.Power
import Mathlib.Data.Rat.Floor
import Mathlib.Tactic.Lemma
import Mathlib.Tactic.Ring

/-!
# Truncating a binary64 number

A pattern of 64 bits becomes a duration by shifts of its significand.  What it ought to become is
told by the number that the format gives to the pattern: its fraction of nanoseconds is cut off
toward zero, and the rest is kept if a word can hold it.

* `Binary64.toNat_bits` — the three fields make up the pattern.
* `Binary64.number` — the number of a finite pattern, in the terms of the format.
  `Binary64.value?_eq` says that it is the number that the significand and the scale denote.
* `Binary64.towardZero` — truncation, by rounding down from zero on and up below it.
* `Binary64.floor_mul_two_zpow` — a shift to the left and then to the right rounds down, whatever
  the scale.  `Binary64.truncate?_eq` gives it the sign.
-/

namespace FrameTiming

namespace Binary64

variable {x : Binary64}

/-! ## The fields of a pattern -/

lemma exponentField_lt (x : Binary64) : x.exponentField < 2 ^ 11 :=
  Nat.mod_lt _ (by decide)

lemma fraction_lt (x : Binary64) : x.fraction < 2 ^ 52 :=
  Nat.mod_lt _ (by decide)

/-- **The fields make up the pattern.** -/
lemma toNat_bits (x : Binary64) :
    x.bits.toNat =
      (if x.isNegative then 2 ^ 63 else 0) + x.exponentField * 2 ^ 52 + x.fraction := by
  have hlt := x.bits.toNat_lt
  simp only [isNegative, decide_eq_true_eq]
  unfold exponentField fraction
  split_ifs <;> omega

/-! ## The number of a pattern -/

/-- How far from zero a finite pattern is.  The exponent field is biased by 1023 and the fraction
follows a leading one; at exponent field zero there is no leading one, and the exponent stays at its
least. -/
def magnitude (x : Binary64) : ℚ :=
  if x.exponentField = 0 then (x.fraction : ℚ) / 2 ^ 52 * 2 ^ (-1022 : ℤ)
  else (1 + (x.fraction : ℚ) / 2 ^ 52) * 2 ^ ((x.exponentField : ℤ) - 1023)

/-- The number of a finite pattern. -/
def number (x : Binary64) : ℚ := if x.isNegative then -x.magnitude else x.magnitude

lemma magnitude_nonneg (x : Binary64) : 0 ≤ x.magnitude := by
  unfold magnitude
  split_ifs <;> positivity

/-- A significand is an integer because its scale is fifty-two places less than the exponent. -/
lemma mul_two_zpow_sub (m : ℚ) (k : ℤ) : m * 2 ^ (k - 52) = m / 2 ^ 52 * 2 ^ k := by
  rw [zpow_sub₀ (by decide)]
  ring

/-- The significand and its scale are the magnitude. -/
lemma significand_mul_scale (x : Binary64) :
    (x.significand : ℚ) * 2 ^ x.scale = x.magnitude := by
  unfold significand scale magnitude
  split_ifs with h
  · rw [h, ← mul_two_zpow_sub]
    rfl
  · have hscale : ((max x.exponentField 1 : ℕ) : ℤ) - 1075 = x.exponentField - 1023 - 52 := by
      omega
    rw [hscale, mul_two_zpow_sub]
    push_cast
    ring

lemma signed_mul_scale (x : Binary64) :
    (x.signed x.significand : ℚ) * 2 ^ x.scale = x.number := by
  unfold signed number
  rw [← significand_mul_scale]
  split_ifs
  · push_cast
    ring
  · push_cast
    rfl

lemma signed_zero (x : Binary64) : x.signed 0 = 0 := by
  unfold signed
  split_ifs <;> rfl

lemma isFinite_iff : x.isFinite ↔ x.exponentField ≠ 2047 := by
  simp [isFinite]

/-- **Every finite pattern denotes the number that the format gives it**, and no other pattern
denotes one. -/
lemma value?_eq (x : Binary64) :
    x.value? = if x.exponentField = 2047 then none else some x.number := by
  simp only [value?, isFinite_iff, ne_eq, ite_not, signed_mul_scale]

/-! ## Truncation -/

/-- A rational number without its fraction, which is cut off toward zero. -/
def towardZero (q : ℚ) : ℤ := if 0 ≤ q then ⌊q⌋ else ⌈q⌉

lemma towardZero_of_nonneg {q : ℚ} (h : 0 ≤ q) : towardZero q = ⌊q⌋ := if_pos h

lemma towardZero_neg_of_nonneg {q : ℚ} (h : 0 ≤ q) : towardZero (-q) = -⌊q⌋ := by
  unfold towardZero
  split_ifs with hneg
  · have hzero : q = 0 := le_antisymm (neg_nonneg.1 hneg) h
    simp [hzero]
  · exact Int.ceil_neg

/-- **A shift up and then down rounds down**, whatever the scale. -/
lemma floor_mul_two_zpow (m : ℕ) (k : ℤ) :
    ⌊(m : ℚ) * 2 ^ k⌋ = (m <<< k.toNat >>> (-k).toNat : ℕ) := by
  -- the sign of the scale decides which of the two shifts does nothing
  obtain ⟨n, rfl | rfl⟩ := k.eq_nat_or_neg
  · have hdown : (-(n : ℤ)).toNat = 0 := by omega
    rw [hdown, Int.toNat_natCast, Nat.shiftRight_zero, Nat.shiftLeft_eq, zpow_natCast]
    exact_mod_cast Int.floor_natCast (R := ℚ) (m * 2 ^ n)
  · have hup : (-(n : ℤ)).toNat = 0 := by omega
    rw [hup, neg_neg, Int.toNat_natCast, Nat.shiftLeft_zero, Nat.shiftRight_eq_div_pow, zpow_neg,
      zpow_natCast, ← div_eq_mul_inv]
    exact_mod_cast Rat.floor_natCast_div_natCast m (2 ^ n)

lemma wholeMagnitude_eq_floor (x : Binary64) : (x.wholeMagnitude : ℤ) = ⌊x.magnitude⌋ := by
  rw [wholeMagnitude, ← floor_mul_two_zpow, ← significand_mul_scale]

lemma signed_wholeMagnitude (x : Binary64) : x.signed x.wholeMagnitude = towardZero x.number := by
  unfold signed number
  split_ifs
  · rw [towardZero_neg_of_nonneg x.magnitude_nonneg, wholeMagnitude_eq_floor]
  · rw [towardZero_of_nonneg x.magnitude_nonneg, wholeMagnitude_eq_floor]

/-- **Shifting truncates the number.** -/
lemma truncate?_eq (x : Binary64) : x.truncate? = x.value?.map towardZero := by
  simp only [truncate?, isFinite_iff, ne_eq, ite_not, signed_wholeMagnitude, value?_eq]
  split_ifs <;> rfl

/-- Without a leading one a number is too small to leave anything. -/
lemma wholeMagnitude_of_exponentField_eq_zero (h : x.exponentField = 0) :
    x.wholeMagnitude = 0 := by
  rw [wholeMagnitude, significand, if_pos h, scale, h]
  -- the first fifty-two of the places already drop every stored bit
  change x.fraction <<< 0 >>> (52 + 1022) = 0
  rw [Nat.shiftLeft_zero, Nat.shiftRight_add, Nat.shiftRight_eq_zero _ _ x.fraction_lt,
    Nat.zero_shiftRight]

end Binary64

namespace Duration

open Binary64

variable {x : Binary64} {d : Duration .nanosecond}

/-! ## Durations -/

lemma ofBinary64?_eq_some_iff :
    ofBinary64? x = some d ↔ x.exponentField ≠ 2047 ∧ d.toInt = towardZero x.number := by
  rw [ofBinary64?, ofCount?_eq_some_iff, truncate?_eq, value?_eq]
  split_ifs with h
  · simp [h]
  · rw [Option.map_some, Option.bind_some, Word.ofInt?_eq_some_iff]
    exact (and_iff_right h).symm

lemma isSome_ofBinary64?_iff :
    (ofBinary64? x).isSome ↔ x.exponentField ≠ 2047 ∧ Fits (towardZero x.number) := by
  rw [Option.isSome_iff_exists]
  simp only [ofBinary64?_eq_some_iff, exists_and_left]
  refine and_congr_right fun _ => ⟨?_, exists_toInt_eq⟩
  rintro ⟨d, hd⟩
  rw [← hd]
  exact d.fits

lemma ofBinary64?_of_exponentField_eq_zero (h : x.exponentField = 0) : ofBinary64? x = some 0 := by
  rw [ofBinary64?_eq_some_iff, ← signed_wholeMagnitude, wholeMagnitude_of_exponentField_eq_zero h,
    signed_zero]
  exact ⟨by omega, rfl⟩

/-! ## The whole statement -/

/-- **A number of nanoseconds is truncated, whatever its pattern.**  Read as sign, exponent and
fraction, a pattern gives a duration exactly when it is finite and its number, truncated toward
zero, fits a word; the duration is then that integer.  So infinities and the patterns that are no
number give none, and a number without a leading one, zero of either sign among them, gives the
duration of no units. -/
theorem ofBinary64?_isTruncated (x : Binary64) :
    (x.bits.toNat =
        (if x.isNegative then 2 ^ 63 else 0) + x.exponentField * 2 ^ 52 + x.fraction ∧
      x.exponentField < 2 ^ 11 ∧ x.fraction < 2 ^ 52) ∧
    ((ofBinary64? x).isSome ↔ x.exponentField ≠ 2047 ∧ Fits (towardZero x.number)) ∧
    (∀ d, ofBinary64? x = some d → d.toInt = towardZero x.number) ∧
    (x.exponentField = 2047 → ofBinary64? x = none) ∧
    (x.exponentField = 0 → ofBinary64? x = some 0) := by
  refine ⟨⟨x.toNat_bits, x.exponentField_lt, x.fraction_lt⟩, isSome_ofBinary64?_iff, ?_, ?_,
    ofBinary64?_of_exponentField_eq_zero⟩
  · intro d hd
    exact (ofBinary64?_eq_some_iff.1 hd).2
  · intro h
    rw [← Option.not_isSome_iff_eq_none, isSome_ofBinary64?_iff]
    exact fun hsome => hsome.1 h

/-- The ends of the range and what lies beyond: `-2^63` is the least duration, `2^63` has none.  A
pattern that is no number has none either, and the greatest number without a leading one is cut down
to nothing. -/
theorem ofBinary64?_isTruncated_range_ends :
    (ofBinary64? ⟨0xC3E0000000000000⟩ = some ⟨Int64.minValue⟩ ∧
      (⟨Int64.minValue⟩ : Duration .nanosecond).toInt = towardZero (number ⟨0xC3E0000000000000⟩)) ∧
    ¬ Fits (towardZero (number ⟨0x43E0000000000000⟩)) ∧
    ofBinary64? ⟨0xFFF0000000000001⟩ = none ∧
    ofBinary64? ⟨0x800FFFFFFFFFFFFF⟩ = some 0 := by
  have hleast : ofBinary64? ⟨0xC3E0000000000000⟩ = some ⟨Int64.minValue⟩ := by decide
  have hbeyond : ¬ (ofBinary64? ⟨0x43E0000000000000⟩).isSome := by decide
  refine ⟨⟨hleast, ?_⟩, fun hfits => hbeyond ?_, ?_, ?_⟩
  · exact (ofBinary64?_isTruncated _).2.2.1 _ hleast
  · exact (ofBinary64?_isTruncated _).2.1.2 ⟨by decide, hfits⟩
  · exact (ofBinary64?_isTruncated _).2.2.2.1 (by decide)
  · exact (ofBinary64?_isTruncated _).2.2.2.2 (by decide)

end Duration

end FrameTiming
