/-!
# Checked arithmetic on 64-bit words

Every count of this library is a signed 64-bit word.  The operations here either give the exact
integer result or refuse: nothing wraps and nothing saturates.

* `Fits` — the integers a word can hold.
* `Word.ofInt?` — the word of an integer, when there is one; `Word.ofCount` — of a 32-bit count.
* `Word.add?`, `Word.sub?`, `Word.mul?`, `Word.neg?` — refuse exactly when the exact result does
  not fit.
* `Word.div?`, `Word.rem?` — truncated division and its remainder; both refuse a zero divisor and
  the one quotient that does not fit, `-2^63 / -1`.

A word is understood through `Int64.toInt`, so each operation comes with the equation that turns
it into `Word.ofInt?` of the exact result.  `ofInt?_eq_some_iff` and `ofInt?_eq_none_iff` then
settle every question about it, and the operations never have to be unfolded again.
-/

namespace FrameTiming

/-- The integers that a signed 64-bit word holds: from `-2^63` on and below `2^63`. -/
def Fits (n : Int) : Prop := -9223372036854775808 ≤ n ∧ n < 9223372036854775808

instance (n : Int) : Decidable (Fits n) := inferInstanceAs (Decidable (_ ∧ _))

/-- A word's value fits. -/
theorem fits_toInt (w : Int64) : Fits w.toInt := ⟨w.le_toInt, w.toInt_lt⟩

namespace Word

/-! ## From integers to words -/

/-- The word of an integer, refused when the integer does not fit. -/
def ofInt? (n : Int) : Option Int64 :=
  if Fits n then some (Int64.ofInt n) else none

/-- The word of an integer that fits reads back as that integer. -/
theorem toInt_ofInt {n : Int} (h : Fits n) : (Int64.ofInt n).toInt = n :=
  Int64.toInt_ofInt_of_le h.1 h.2

/-- Reducing an integer to a word changes nothing when it fits. -/
theorem bmod_eq {n : Int} (h : Fits n) : n.bmod 18446744073709551616 = n :=
  Int.bmod_eq_of_le h.1 h.2

/-- **The value of a word decides it.**  `ofInt?` gives `w` exactly for the integer `w` holds. -/
theorem ofInt?_eq_some_iff {n : Int} {w : Int64} : ofInt? n = some w ↔ w.toInt = n := by
  unfold ofInt?
  constructor
  · intro h
    split at h
    · next hn => rw [← Option.some.inj h, toInt_ofInt hn]
    · cases h
  · rintro rfl
    rw [if_pos (fits_toInt w), Int64.ofInt_toInt]

/-- An integer is refused exactly when it does not fit. -/
theorem ofInt?_eq_none_iff {n : Int} : ofInt? n = none ↔ ¬ Fits n := by
  unfold ofInt?
  split <;> simp [*]

@[simp] theorem ofInt?_toInt (w : Int64) : ofInt? w.toInt = some w :=
  ofInt?_eq_some_iff.2 rfl

/-- A 32-bit count as a word; it always fits. -/
def ofCount (n : UInt32) : Int64 := Int64.ofNat n.toNat

theorem toInt_ofCount (n : UInt32) : (ofCount n).toInt = n.toNat :=
  Int64.toInt_ofNat_of_lt (Nat.lt_trans n.toNat_lt (by decide))

/-! ## Sum, difference, product -/

/-- The sum of two words, refused when it does not fit. -/
def add? (a b : Int64) : Option Int64 :=
  if Fits (a.toInt + b.toInt) then some (a + b) else none

/-- The difference of two words, refused when it does not fit. -/
def sub? (a b : Int64) : Option Int64 :=
  if Fits (a.toInt - b.toInt) then some (a - b) else none

/-- The product of two words, refused when it does not fit. -/
def mul? (a b : Int64) : Option Int64 :=
  if Fits (a.toInt * b.toInt) then some (a * b) else none

/-- A word that reads as the integer `n`, or nothing, is `ofInt? n`. -/
theorem ite_fits_eq_ofInt? {n : Int} {w : Int64} (h : w.toInt = n.bmod 18446744073709551616) :
    (if Fits n then some w else none) = ofInt? n := by
  unfold ofInt?
  split
  · next hn => rw [← Int64.toInt_inj.1 (h.trans ((bmod_eq hn).trans (toInt_ofInt hn).symm))]
  · rfl

theorem add?_eq_ofInt? (a b : Int64) : add? a b = ofInt? (a.toInt + b.toInt) :=
  ite_fits_eq_ofInt? (Int64.toInt_add a b)

theorem sub?_eq_ofInt? (a b : Int64) : sub? a b = ofInt? (a.toInt - b.toInt) :=
  ite_fits_eq_ofInt? (Int64.toInt_sub a b)

theorem mul?_eq_ofInt? (a b : Int64) : mul? a b = ofInt? (a.toInt * b.toInt) :=
  ite_fits_eq_ofInt? (Int64.toInt_mul a b)

/-- **Addition is exact.** -/
theorem add?_eq_some_iff {a b c : Int64} : add? a b = some c ↔ c.toInt = a.toInt + b.toInt := by
  rw [add?_eq_ofInt?, ofInt?_eq_some_iff]

/-- **Subtraction is exact.** -/
theorem sub?_eq_some_iff {a b c : Int64} : sub? a b = some c ↔ c.toInt = a.toInt - b.toInt := by
  rw [sub?_eq_ofInt?, ofInt?_eq_some_iff]

/-- **Multiplication is exact.** -/
theorem mul?_eq_some_iff {a b c : Int64} : mul? a b = some c ↔ c.toInt = a.toInt * b.toInt := by
  rw [mul?_eq_ofInt?, ofInt?_eq_some_iff]

/-! ## Unchecked arithmetic is exact where the result fits -/

theorem toInt_add {a b : Int64} (h : Fits (a.toInt + b.toInt)) :
    (a + b).toInt = a.toInt + b.toInt := by
  rw [Int64.toInt_add, bmod_eq h]

theorem toInt_sub {a b : Int64} (h : Fits (a.toInt - b.toInt)) :
    (a - b).toInt = a.toInt - b.toInt := by
  rw [Int64.toInt_sub, bmod_eq h]

theorem toInt_mul {a b : Int64} (h : Fits (a.toInt * b.toInt)) :
    (a * b).toInt = a.toInt * b.toInt := by
  rw [Int64.toInt_mul, bmod_eq h]

/-! ## Negation -/

/-- The negated word, refused for the least word, whose negation does not fit. -/
def neg? (a : Int64) : Option Int64 :=
  if a = Int64.minValue then none else some (-a)

theorem neg?_eq_ofInt? (a : Int64) : neg? a = ofInt? (-a.toInt) := by
  have hfits : Fits (-a.toInt) ↔ a ≠ Int64.minValue := by
    have ha := fits_toInt a
    rw [ne_eq, ← Int64.toInt_inj, Int64.toInt_minValue]
    unfold Fits at *
    omega
  rw [← ite_fits_eq_ofInt? (Int64.toInt_neg a)]
  by_cases h : a = Int64.minValue
  · rw [neg?, if_pos h, if_neg fun hf => hfits.1 hf h]
  · rw [neg?, if_neg h, if_pos (hfits.2 h)]

/-- **Negation is exact.** -/
theorem neg?_eq_some_iff {a c : Int64} : neg? a = some c ↔ c.toInt = -a.toInt := by
  rw [neg?_eq_ofInt?, ofInt?_eq_some_iff]

/-! ## Quotient and remainder -/

/-- The divisions without an answer: by zero, and `-2^63 / -1`, whose quotient does not fit. -/
def Indivisible (a b : Int64) : Prop := b = 0 ∨ (a = Int64.minValue ∧ b = -1)

instance (a b : Int64) : Decidable (Indivisible a b) := inferInstanceAs (Decidable (_ ∨ _))

/-- The two of them in terms of the integers. -/
theorem indivisible_iff {a b : Int64} :
    Indivisible a b ↔ b.toInt = 0 ∨ (a.toInt = -9223372036854775808 ∧ b.toInt = -1) := by
  rw [Indivisible, ← Int64.toInt_inj, ← Int64.toInt_inj, ← Int64.toInt_inj, Int64.toInt_minValue]
  rfl

/-- The quotient truncated toward zero. -/
def div? (a b : Int64) : Option Int64 :=
  if Indivisible a b then none else some (a / b)

/-- The remainder of the truncated quotient; it has the dividend's sign. -/
def rem? (a b : Int64) : Option Int64 :=
  if Indivisible a b then none else some (a % b)

/-- The quotient by a positive word is exact. -/
theorem toInt_div_of_pos {a b : Int64} (hb : 0 < b.toInt) :
    (a / b).toInt = a.toInt.tdiv b.toInt := by
  refine Int64.toInt_div_of_ne_right a b fun h => ?_
  rw [h] at hb
  exact absurd hb (by decide)

theorem toInt_div_of_not_indivisible {a b : Int64} (h : ¬ Indivisible a b) :
    (a / b).toInt = a.toInt.tdiv b.toInt := by
  by_cases ha : a = Int64.minValue
  · exact Int64.toInt_div_of_ne_right a b fun hb => h (.inr ⟨ha, hb⟩)
  · exact Int64.toInt_div_of_ne_left a b ha

/-- **Division is exact** wherever it has an answer. -/
theorem div?_eq_some_iff {a b c : Int64} :
    div? a b = some c ↔ ¬ Indivisible a b ∧ c.toInt = a.toInt.tdiv b.toInt := by
  unfold div?
  by_cases h : Indivisible a b
  · simp [h]
  · simp only [h, if_false, Option.some.injEq, not_false_eq_true, true_and]
    rw [← toInt_div_of_not_indivisible h, Int64.toInt_inj, eq_comm]

/-- **The remainder is exact** wherever the division has an answer. -/
theorem rem?_eq_some_iff {a b c : Int64} :
    rem? a b = some c ↔ ¬ Indivisible a b ∧ c.toInt = a.toInt.tmod b.toInt := by
  unfold rem?
  by_cases h : Indivisible a b
  · simp [h]
  · simp only [h, if_false, Option.some.injEq, not_false_eq_true, true_and]
    rw [← Int64.toInt_mod, Int64.toInt_inj, eq_comm]

end Word

end FrameTiming
