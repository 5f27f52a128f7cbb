import FrameTiming.Duration

/-!
# Binary64 numbers as durations

A pattern of 64 bits is read as sign, exponent and fraction.  Unless the exponent field is all
ones it denotes a number `± significand * 2 ^ scale`, and everything below works on these two
integers; no floating-point operation is involved.

* `value?` — the denoted rational number; none for infinities and the patterns that are no
  number.
* `truncate?` — the same number truncated toward zero, by shifting the significand.
* `Duration.ofBinary64?` — a number of nanoseconds as a duration, truncated toward zero and
  refused when it does not fit.
-/

namespace FrameTiming

/-- A 64-bit pattern in the binary64 format. -/
structure Binary64 where
  /-- Sign, eleven exponent bits, fifty-two fraction bits, from the most significant one down. -/
  bits : UInt64
deriving DecidableEq, Repr

namespace Binary64

/-! ## The fields -/

/-- Whether the sign bit is set, the one that counts `2^63`. -/
def isNegative (x : Binary64) : Bool := decide (9223372036854775808 ≤ x.bits.toNat)

/-- The biased exponent: the eleven bits above the lowest fifty-two. -/
def exponentField (x : Binary64) : Nat := x.bits.toNat / 4503599627370496 % 2048

/-- The stored bits of the significand. -/
def fraction (x : Binary64) : Nat := x.bits.toNat % 4503599627370496

/-- Whether the pattern denotes a number: the exponent field is not all ones. -/
def isFinite (x : Binary64) : Bool := decide (x.exponentField ≠ 2047)

/-- The significand as an integer.  A leading one is implied unless the exponent field is
zero. -/
def significand (x : Binary64) : Nat :=
  if x.exponentField = 0 then x.fraction else 4503599627370496 + x.fraction

/-- The power of two that the significand is scaled by.  Exponent field zero has the scale of
exponent field one. -/
def scale (x : Binary64) : Int := (max x.exponentField 1 : Nat) - 1075

/-- Gives a magnitude the sign of the pattern. -/
def signed (x : Binary64) (magnitude : Nat) : Int :=
  if x.isNegative then -(magnitude : Int) else magnitude

/-! ## The number -/

/-- The rational number that the pattern denotes. -/
def value? (x : Binary64) : Option Rat :=
  if x.isFinite then some (x.signed x.significand * (2 : Rat) ^ x.scale) else none

/-- The magnitude of the number, rounded down: a scale of at least zero shifts the significand
up, a scale below zero drops its last bits. -/
def wholeMagnitude (x : Binary64) : Nat :=
  x.significand <<< x.scale.toNat >>> (-x.scale).toNat

/-- The number truncated toward zero. -/
def truncate? (x : Binary64) : Option Int :=
  if x.isFinite then some (x.signed x.wholeMagnitude) else none

end Binary64

/-- A number of nanoseconds, truncated toward zero; refused when the pattern is no number or
does not fit. -/
def Duration.ofBinary64? (x : Binary64) : Option (Duration .nanosecond) :=
  Duration.ofCount? (x.truncate?.bind Word.ofInt?)

end FrameTiming
