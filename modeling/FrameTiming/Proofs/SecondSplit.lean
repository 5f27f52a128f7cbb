import FrameTiming.Calendar.UnixTime
import FrameTiming.Proofs.ConversionOrder
import Mathlib.Data.Prod.Lex
import Mathlib.Data.Set.Operations

/-!
# Seconds and nanoseconds keep time in order

The calendar sees a timestamp as a number of seconds and the nanoseconds into that second.  Such
pairs are compared by their seconds, and by their nanoseconds within a second.  This module says
that nothing is lost in them, neither a timestamp nor the order of two.

* `UnixTime.eq_ofNanos_iff` — the only way to write a count of nanoseconds as seconds and less than
  a second more.
* `UnixTime.toUInt32_wideNanoseconds` — narrowing the nanoseconds to 32 bits drops no bit that is
  set.
* `Timestamp.fields_unixTime_lt_iff` — pairs are ordered as the timestamps they come from.
* `Timestamp.range_unixTime` — the pairs that come from timestamps.
* `Timestamp.unixTime?_eq`, `Timestamp.fields_lt_iff_of_unixTime?` — the same for ticks, of which
  only some have a pair.

**Why seconds are rounded down.**  The nanoseconds have no sign.  With seconds truncated toward the
epoch they would count backwards before it, and a later pair would come from an earlier time.
-/

namespace FrameTiming

namespace UnixTime

/-! ## One way to split a count -/

/-- The nanoseconds from the epoch that seconds and nanoseconds make together. -/
def nanosSinceEpoch (c : UnixTime) : ℤ := c.seconds.toInt * 1000000000 + c.nanoseconds.toNat

/-- **A split is the only one there is.** -/
lemma eq_ofNanos_iff (nanos : Int64) (s n : ℤ) :
    nanos.toInt = s * 1000000000 + n ∧ 0 ≤ n ∧ n < 1000000000 ↔
      s = (ofNanos nanos).seconds.toInt ∧ n = (ofNanos nanos).nanoseconds.toNat := by
  obtain ⟨hseconds, hnanoseconds⟩ := toInt_ofNanos nanos
  rw [hseconds, hnanoseconds]
  omega

/-- The nanoseconds of a split are not negative and less than a second, so 32 bits keep them. -/
lemma toUInt32_wideNanoseconds (nanos : Int64) :
    (wideNanoseconds nanos).toUInt64.toUInt32 = (ofNanos nanos).nanoseconds := by
  have hwide := toInt_wideNanoseconds nanos
  have hnarrow := (toInt_ofNanos nanos).2
  have hnonneg : 0 ≤ wideNanoseconds nanos := by
    rw [Int64.le_iff_toInt_le, hwide]
    exact Int.emod_nonneg _ (by decide)
  rw [← UInt32.toNat_inj, UInt64.toNat_toUInt32, Int64.toNat_toUInt64_of_le hnonneg,
    Int64.toNatClampNeg]
  -- less than a second, so reducing modulo `2 ^ 32` changes nothing
  omega

lemma ofNanos_eq_narrowed (nanos : Int64) :
    ofNanos nanos = ⟨wholeSeconds nanos, (wideNanoseconds nanos).toUInt64.toUInt32⟩ := by
  rw [toUInt32_wideNanoseconds, ofNanos_eq]

/-! ## Order -/

/-- Seconds and nanoseconds, compared one after the other. -/
def fields (c : UnixTime) : ℤ ×ₗ ℕ := toLex (c.seconds.toInt, c.nanoseconds.toNat)

lemma fields_lt_iff {c d : UnixTime} :
    c.fields < d.fields ↔ c.seconds.toInt < d.seconds.toInt ∨
      c.seconds.toInt = d.seconds.toInt ∧ c.nanoseconds.toNat < d.nanoseconds.toNat :=
  Prod.Lex.toLex_lt_toLex

end UnixTime

namespace Timestamp

/-! ## Nanosecond timestamps -/

/-- **Time in seconds and nanoseconds runs as time does**, on both sides of the epoch and across
it. -/
lemma fields_unixTime_lt_iff {t u : Timestamp .nanosecond} :
    t.unixTime.fields < u.unixTime.fields ↔ t < u := by
  obtain ⟨htseconds, htrest⟩ := UnixTime.toInt_ofNanos t.count
  obtain ⟨huseconds, hurest⟩ := UnixTime.toInt_ofNanos u.count
  -- the nanoseconds stay below a second, so they decide only within one second
  rw [UnixTime.fields_lt_iff, unixTime, unixTime, htseconds, huseconds, lt_iff_toInt_lt, toInt,
    toInt]
  omega

/-- Seconds and nanoseconds come from a timestamp when the nanoseconds make less than a second and
the two together make a word. -/
lemma range_unixTime : Set.range unixTime =
    {c | c.nanoseconds.toNat < 1000000000 ∧ Fits c.nanosSinceEpoch} := by
  ext c
  rw [Set.mem_range, Set.mem_ofPred_eq]
  constructor
  · rintro ⟨t, rfl⟩
    obtain ⟨hcount, -, hlt⟩ := (UnixTime.eq_ofNanos_iff t.count _ _).2 ⟨rfl, rfl⟩
    refine ⟨by exact_mod_cast hlt, ?_⟩
    rw [UnixTime.nanosSinceEpoch, unixTime, ← hcount]
    exact t.fits
  · rintro ⟨hlt, hfits⟩
    obtain ⟨t, ht⟩ : ∃ t : Timestamp .nanosecond, t.toInt = c.nanosSinceEpoch :=
      exists_toInt_eq hfits
    obtain ⟨hseconds, hnanoseconds⟩ := (UnixTime.eq_ofNanos_iff t.count _ _).1
      ⟨ht, Int.natCast_nonneg _, by exact_mod_cast hlt⟩
    refine ⟨t, UnixTime.ext (Int64.toInt_inj.1 hseconds.symm) (UInt32.toNat_inj.1 ?_)⟩
    exact_mod_cast hnanoseconds.symm

/-! ## Tick timestamps -/

variable {t u : Timestamp .tick} {c d : UnixTime}

/-- **The seconds of a tick timestamp** are those of its exact nanoseconds, and there are none
exactly when these do not fit. -/
lemma unixTime?_eq (t : Timestamp .tick) :
    t.unixTime? = (Word.ofInt? ((t.toInt * 100000).tdiv 9)).map UnixTime.ofNanos := by
  rw [unixTime?, toNanos?, Duration.toNanos?_ticksPerSecond, Rate.exact_ticks_nanos, ofCount?,
    Option.map_map]
  rfl

lemma lt_iff_of_toNanos? {v w : Timestamp .nanosecond} (ht : t.toNanos? = some v)
    (hu : u.toNanos? = some w) : t < u ↔ v < w := by
  constructor
  · intro h
    have hsub := mul_sub_le_of_toNanos? ht hu h
    rw [lt_iff_toInt_lt] at h ⊢
    omega
  · intro h
    rw [lt_iff_toInt_lt, toNanos?_eq_some_iff.1 ht, toNanos?_eq_some_iff.1 hu] at h
    rw [lt_iff_toInt_lt]
    -- the conversion keeps the order, so an earlier tick cannot be later in nanoseconds
    by_contra hle
    exact absurd (Rate.exact_mono (by decide) (by decide) (not_lt.1 hle)) (not_le.2 h)

lemma fields_lt_iff_of_unixTime? (ht : t.unixTime? = some c) (hu : u.unixTime? = some d) :
    c.fields < d.fields ↔ t < u := by
  obtain ⟨v, hv, rfl⟩ := Option.map_eq_some_iff.1 ht
  obtain ⟨w, hw, rfl⟩ := Option.map_eq_some_iff.1 hu
  rw [fields_unixTime_lt_iff, lt_iff_of_toNanos? hv hw]

/-! ## The whole statement -/

/-- **Seconds and nanoseconds keep time in order.**  A split of any word of nanoseconds overflows
nowhere, and its nanoseconds are kept by 32 bits; it is the only pair of a number of seconds and
less than a second more that makes the count.  One timestamp is before another exactly when its pair
is the smaller one, seconds first, and the pairs that occur are those that make a word with less
than a second of nanoseconds.  A tick timestamp has the pair of its nanoseconds truncated toward the
epoch, whenever these fit, and there too the pairs are ordered as the timestamps. -/
theorem unixTime_keeps_order :
    (∀ nanos : Int64, UnixTime.NoOverflow nanos.toInt ∧
      UnixTime.ofNanos nanos =
        ⟨UnixTime.wholeSeconds nanos, (UnixTime.wideNanoseconds nanos).toUInt64.toUInt32⟩ ∧
      ((UnixTime.ofNanos nanos).nanoseconds.toNat : ℤ) = (UnixTime.wideNanoseconds nanos).toInt ∧
      ∀ s n : ℤ, nanos.toInt = s * 1000000000 + n ∧ 0 ≤ n ∧ n < 1000000000 ↔
        s = (UnixTime.ofNanos nanos).seconds.toInt ∧
          n = (UnixTime.ofNanos nanos).nanoseconds.toNat) ∧
    (∀ t u : Timestamp .nanosecond, t < u ↔ t.unixTime.fields < u.unixTime.fields) ∧
    Set.range unixTime = {c | c.nanoseconds.toNat < 1000000000 ∧ Fits c.nanosSinceEpoch} ∧
    (∀ t : Timestamp .tick, (t.unixTime?.isSome ↔ t.toNanos?.isSome) ∧
      t.unixTime? = (Word.ofInt? ((t.toInt * 100000).tdiv 9)).map UnixTime.ofNanos) ∧
    (∀ (t u : Timestamp .tick) (c d : UnixTime), t.unixTime? = some c → u.unixTime? = some d →
      (t < u ↔ c.fields < d.fields)) := by
  refine ⟨?_, fun t u => fields_unixTime_lt_iff.symm, range_unixTime, ?_, ?_⟩
  · intro nanos
    refine ⟨UnixTime.noOverflow_of_fits (fits_toInt nanos),
      UnixTime.ofNanos_eq_narrowed nanos, ?_, UnixTime.eq_ofNanos_iff nanos⟩
    rw [(UnixTime.toInt_ofNanos nanos).2, UnixTime.toInt_wideNanoseconds]
  · intro t
    refine ⟨?_, unixTime?_eq t⟩
    rw [unixTime?, Option.isSome_map]
  · intro t u c d ht hu
    exact (fields_lt_iff_of_unixTime? ht hu).symm

/-- Across the epoch and from one end of the range to the other: the last tick before the epoch
against the epoch itself, and the two outermost ticks that have nanoseconds. -/
theorem unixTime_keeps_order_range_ends :
    ((⟨-1⟩ : Timestamp .tick).unixTime? = some ⟨-1, 999988889⟩ ∧
      (⟨0⟩ : Timestamp .tick).unixTime? = some ⟨0, 0⟩ ∧
      UnixTime.fields ⟨-1, 999988889⟩ < UnixTime.fields ⟨0, 0⟩) ∧
    ((⟨-830103483316929⟩ : Timestamp .tick).unixTime? = some ⟨-9223372037, 145233334⟩ ∧
      (⟨830103483316929⟩ : Timestamp .tick).unixTime? = some ⟨9223372036, 854766666⟩ ∧
      UnixTime.fields ⟨-9223372037, 145233334⟩ < UnixTime.fields ⟨9223372036, 854766666⟩) := by
  obtain ⟨-, -, -, -, horder⟩ := unixTime_keeps_order
  have hbefore : (⟨-1⟩ : Timestamp .tick).unixTime? = some ⟨-1, 999988889⟩ := by decide
  have hepoch : (⟨0⟩ : Timestamp .tick).unixTime? = some ⟨0, 0⟩ := by decide
  have hfirst : (⟨-830103483316929⟩ : Timestamp .tick).unixTime? =
      some ⟨-9223372037, 145233334⟩ := by decide
  have hlast : (⟨830103483316929⟩ : Timestamp .tick).unixTime? =
      some ⟨9223372036, 854766666⟩ := by decide
  refine ⟨⟨hbefore, hepoch, ?_⟩, hfirst, hlast, ?_⟩
  · exact (horder _ _ _ _ hbefore hepoch).1 (by decide)
  · exact (horder _ _ _ _ hfirst hlast).1 (by decide)

end Timestamp

end FrameTiming
