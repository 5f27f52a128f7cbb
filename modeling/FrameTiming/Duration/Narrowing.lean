import FrameTiming.Duration

/-!
# Narrowing a duration to 32 bits

Containers store tick counts in 32-bit fields, signed or not.  `toInt32` and `toUInt32` give the
count when it can be stored and otherwise say why not: `NarrowingError` names the cause and
keeps the count.

* `toInt32_eq_ok_iff`, `toUInt32_eq_ok_iff` — a field takes a count exactly when it can hold that
  count, and then holds it unchanged.
* `toInt32_eq_error_iff`, `toUInt32_eq_error_iff` — which counts are refused, and with which error.
* `value_and_cause_of_eq_error` — what all these errors have in common.

Errors also travel as numbered codes.  Codes beyond the named causes are kept as they are, so
that two errors are equal exactly when code and count are (`NarrowingError.ofCode_eq_iff`).
-/

namespace FrameTiming

namespace NarrowingError

/-- Why a count could not be narrowed. -/
inductive Cause where
  /-- A negative count for an unsigned field. -/
  | negative
  /-- A count beyond the field's range. -/
  | outOfRange
  /-- A cause known only by its code. -/
  | unnamed (code : UInt8)
deriving DecidableEq, Repr

/-- The cause a code stands for. -/
def Cause.ofCode (code : UInt8) : Cause :=
  if code = 0 then .negative else if code = 1 then .outOfRange else .unnamed code

/-- Different codes stand for different causes. -/
theorem Cause.ofCode_inj {c d : UInt8} : Cause.ofCode c = Cause.ofCode d ↔ c = d := by
  refine ⟨fun h => ?_, congrArg Cause.ofCode⟩
  unfold Cause.ofCode at h
  grind

def Cause.message : Cause → String
  | .negative => "Negative value for unsigned target"
  | .outOfRange => "Value out of range for target type"
  | .unnamed _ => "Unknown conversion error"

end NarrowingError

/-- A failed narrowing: why, and which count. -/
structure NarrowingError where
  cause : NarrowingError.Cause
  value : Int64
deriving DecidableEq, Repr

namespace NarrowingError

def message (e : NarrowingError) : String := e.cause.message

/-- Errors that come as codes are equal when code and count are. -/
theorem ofCode_eq_iff {c d : UInt8} {v w : Int64} :
    (⟨.ofCode c, v⟩ : NarrowingError) = ⟨.ofCode d, w⟩ ↔ c = d ∧ v = w := by
  rw [NarrowingError.mk.injEq, Cause.ofCode_inj]

end NarrowingError

namespace Duration

/-- The tick count in a signed 32-bit field. -/
def toInt32 (d : Duration .tick) : Except NarrowingError Int32 :=
  if d.count < Int32.minValue.toInt64 ∨ Int32.maxValue.toInt64 < d.count then
    .error ⟨.outOfRange, d.count⟩
  else .ok d.count.toInt32

/-- The tick count in an unsigned 32-bit field; a negative count is reported as such. -/
def toUInt32 (d : Duration .tick) : Except NarrowingError UInt32 :=
  if d.count < 0 then .error ⟨.negative, d.count⟩
  else if Word.ofCount 0xFFFFFFFF < d.count then .error ⟨.outOfRange, d.count⟩
  else .ok (UInt32.ofNat d.toInt.toNat)

variable {d : Duration .tick} {e : NarrowingError}

/-! ## The signed field -/

theorem beyond_int32_iff :
    d.count < Int32.minValue.toInt64 ∨ Int32.maxValue.toInt64 < d.count ↔
      d.toInt < -2147483648 ∨ 2147483647 < d.toInt := by
  rw [Int64.lt_iff_toInt_lt, Int64.lt_iff_toInt_lt]; rfl

/-- Dropping the upper half of a word changes nothing when the field can hold it. -/
theorem toInt_count_toInt32 (h : ¬ (d.toInt < -2147483648 ∨ 2147483647 < d.toInt)) :
    d.count.toInt32.toInt = d.toInt := by
  rw [Int64.toInt_toInt32]
  change d.toInt.bmod 4294967296 = d.toInt
  exact Int.bmod_eq_of_le (by omega) (by omega)

/-- **A signed field holds the count**, and takes every count that it can hold. -/
theorem toInt32_eq_ok_iff {n : Int32} : d.toInt32 = .ok n ↔ n.toInt = d.toInt := by
  have hlow := n.le_toInt
  have hup := n.toInt_lt
  unfold toInt32
  simp only [beyond_int32_iff]
  split
  · simp only [reduceCtorEq, false_iff]
    omega
  · next hheld =>
    rw [Except.ok.injEq, ← Int32.toInt_inj, toInt_count_toInt32 hheld, eq_comm]

/-- **A signed field refuses** for one cause only. -/
theorem toInt32_eq_error_iff :
    d.toInt32 = .error e ↔
      (d.toInt < -2147483648 ∨ 2147483647 < d.toInt) ∧ e = ⟨.outOfRange, d.count⟩ := by
  unfold toInt32
  simp only [beyond_int32_iff]
  split
  · next hbeyond => simp [hbeyond, eq_comm]
  · next hheld => simp [hheld]

/-! ## The unsigned field -/

theorem count_neg_iff : d.count < 0 ↔ d.toInt < 0 := Int64.lt_iff_toInt_lt

theorem beyond_uint32_iff : Word.ofCount 0xFFFFFFFF < d.count ↔ 4294967295 < d.toInt :=
  Int64.lt_iff_toInt_lt

/-- **An unsigned field holds the count**, and takes every count that it can hold. -/
theorem toUInt32_eq_ok_iff {n : UInt32} : d.toUInt32 = .ok n ↔ n.toNat = d.toInt := by
  have hup := n.toNat_lt
  unfold toUInt32
  simp only [count_neg_iff, beyond_uint32_iff]
  split
  · simp only [reduceCtorEq, false_iff]
    omega
  split
  · simp only [reduceCtorEq, false_iff]
    omega
  · have hsize : d.toInt.toNat < UInt32.size := by
      simp only [UInt32.size]
      omega
    rw [Except.ok.injEq, ← UInt32.toNat_inj, UInt32.toNat_ofNat_of_lt' hsize]
    omega

/-- **An unsigned field refuses** negative counts as such, and large ones as out of range. -/
theorem toUInt32_eq_error_iff :
    d.toUInt32 = .error e ↔ d.toInt < 0 ∧ e = ⟨.negative, d.count⟩ ∨
      4294967295 < d.toInt ∧ e = ⟨.outOfRange, d.count⟩ := by
  unfold toUInt32
  simp only [count_neg_iff, beyond_uint32_iff]
  split
  · next hneg =>
    -- the two refusals exclude each other, so the order of the tests does not show
    have hsmall : ¬ 4294967295 < d.toInt := by omega
    simp [hneg, hsmall, eq_comm]
  split
  · next hneg hbeyond => simp [hneg, hbeyond, eq_comm]
  · next hneg hbeyond => simp [hneg, hbeyond]

/-! ## Either field -/

/-- **An error keeps the count** that could not be stored, and its cause has a name. -/
theorem value_and_cause_of_eq_error (h : d.toInt32 = .error e ∨ d.toUInt32 = .error e) :
    e.value = d.count ∧ ∀ code, e.cause ≠ .unnamed code := by
  rcases h with h | h
  · obtain ⟨-, rfl⟩ := toInt32_eq_error_iff.1 h
    exact ⟨rfl, by simp⟩
  · obtain ⟨-, rfl⟩ | ⟨-, rfl⟩ := toUInt32_eq_error_iff.1 h
    · exact ⟨rfl, by simp⟩
    · exact ⟨rfl, by simp⟩

end Duration

end FrameTiming
