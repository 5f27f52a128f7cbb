import FrameTiming.Timestamp

/-!
# Seconds since the epoch

Calendars count seconds, so a timestamp is handed to them as whole seconds since the epoch and
the nanoseconds into that second.  The seconds are rounded down: half a second before the epoch
is second -1 and 500 000 000 nanoseconds, and the nanoseconds are never negative.

`UnixTime.toInt_ofNanos` says this of the machine arithmetic that does the split, and
`UnixTime.noOverflow_of_fits` that none of its steps leaves 64 bits.  Every nanosecond timestamp
can be split; a tick timestamp only when its nanoseconds fit.
-/

namespace FrameTiming

/-- Seconds since the epoch, and nanoseconds into that second. -/
@[ext] structure UnixTime where
  /-- Whole seconds since the epoch, negative before it. -/
  seconds : Int64
  /-- Nanoseconds after the start of that second. -/
  nanoseconds : UInt32
deriving DecidableEq, Repr

instance : Inhabited UnixTime := ⟨⟨0, 0⟩⟩

/-- Splits a nanosecond count into seconds, rounded down, and the nanoseconds left over. -/
def UnixTime.ofNanos (nanos : Int64) : UnixTime :=
  let whole := nanos / nanosPerSecond
  let rest := nanos % nanosPerSecond
  if rest < 0 then ⟨whole - 1, UInt32.ofNat (rest + nanosPerSecond).toInt.toNat⟩
  else ⟨whole, UInt32.ofNat rest.toInt.toNat⟩

namespace UnixTime

/-! ## The words of a split

A split truncates toward zero and then mends what comes out negative.  Its two results are named
here while both are words of 64 bits. -/

/-- The seconds of a split: the quotient, less one when the remainder is negative. -/
def wholeSeconds (nanos : Int64) : Int64 :=
  if nanos % nanosPerSecond < 0 then nanos / nanosPerSecond - 1 else nanos / nanosPerSecond

/-- The nanoseconds of a split before they are narrowed to 32 bits: the remainder, and a second
more when it is negative. -/
def wideNanoseconds (nanos : Int64) : Int64 :=
  if nanos % nanosPerSecond < 0 then nanos % nanosPerSecond + nanosPerSecond
  else nanos % nanosPerSecond

theorem ofNanos_eq (nanos : Int64) :
    ofNanos nanos = ⟨wholeSeconds nanos, UInt32.ofNat (wideNanoseconds nanos).toInt.toNat⟩ := by
  unfold ofNanos wholeSeconds wideNanoseconds
  simp only
  split <;> rfl

/-- **No step of a split overflows.**  The quotient and the remainder are words, and they stay words
when one second is taken from the quotient and added to the remainder. -/
structure NoOverflow (nanos : Int) : Prop where
  quotient : Fits (nanos.tdiv 1000000000)
  remainder : Fits (nanos.tmod 1000000000)
  borrow : Fits (nanos.tdiv 1000000000 - 1)
  carry : Fits (nanos.tmod 1000000000 + 1000000000)

theorem noOverflow_of_fits {nanos : Int} (h : Fits nanos) : NoOverflow nanos := by
  have hcases := Rate.tdiv_tmod_eq nanos 1000000000
  unfold Fits at h
  constructor <;> unfold Fits <;> omega

theorem toInt_quotient (nanos : Int64) :
    (nanos / nanosPerSecond).toInt = nanos.toInt.tdiv 1000000000 :=
  Word.toInt_div_of_pos (by decide)

theorem toInt_remainder (nanos : Int64) :
    (nanos % nanosPerSecond).toInt = nanos.toInt.tmod 1000000000 :=
  Int64.toInt_mod _ _

theorem toInt_wholeSeconds (nanos : Int64) :
    (wholeSeconds nanos).toInt = nanos.toInt / 1000000000 := by
  have hcases := Rate.tdiv_tmod_eq nanos.toInt 1000000000
  have hborrow := (noOverflow_of_fits (fits_toInt nanos)).borrow
  rw [← toInt_quotient] at hborrow
  unfold wholeSeconds
  simp only [Int64.lt_iff_toInt_lt, toInt_remainder, Int64.toInt_zero]
  split
  · rw [Word.toInt_sub hborrow, toInt_quotient, Int64.toInt_one]
    omega
  · rw [toInt_quotient]
    omega

theorem toInt_wideNanoseconds (nanos : Int64) :
    (wideNanoseconds nanos).toInt = nanos.toInt % 1000000000 := by
  have hcases := Rate.tdiv_tmod_eq nanos.toInt 1000000000
  have hcarry := (noOverflow_of_fits (fits_toInt nanos)).carry
  rw [← toInt_remainder] at hcarry
  unfold wideNanoseconds
  simp only [Int64.lt_iff_toInt_lt, toInt_remainder, Int64.toInt_zero]
  split
  · rw [Word.toInt_add hcarry, toInt_remainder, toInt_nanosPerSecond]
    omega
  · rw [toInt_remainder]
    omega

/-- **Seconds are rounded down** and the nanoseconds are what is left, from 0 to 999 999 999. -/
theorem toInt_ofNanos (nanos : Int64) :
    (ofNanos nanos).seconds.toInt = nanos.toInt / 1000000000 ∧
      ((ofNanos nanos).nanoseconds.toNat : Int) = nanos.toInt % 1000000000 := by
  have hwide := toInt_wideNanoseconds nanos
  rw [ofNanos_eq]
  refine ⟨toInt_wholeSeconds nanos, ?_⟩
  rw [UInt32.toNat_ofNat_of_lt' (by simp only [UInt32.size]; omega)]
  omega

-- half a second before the epoch
example : ofNanos (-500000000) = ⟨-1, 500000000⟩ := by decide

end UnixTime

/-! ## Timestamps -/

namespace Timestamp

/-- A nanosecond timestamp in seconds and nanoseconds. -/
def unixTime (t : Timestamp .nanosecond) : UnixTime := UnixTime.ofNanos t.count

/-- A tick timestamp in seconds and nanoseconds, when its nanoseconds fit. -/
def unixTime? (t : Timestamp .tick) : Option UnixTime := t.toNanos?.map unixTime

end Timestamp

end FrameTiming
