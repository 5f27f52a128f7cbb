import FrameTiming.Reading

/-!
# Where the first frame goes

The rate of a recording is known up front, the time of its first frame often is not: it may be
the present, a whole second that several encoders agree on, or a time from an earlier recording.
An `Origin` states that choice as data; `Origin.resolve` turns it into a timestamp when the clock
is at hand.

Only the first two kinds look at the clock.  The other two resolve the same way at all times and
cannot fail.
-/

namespace FrameTiming

/-- The choice of a first timestamp. -/
inductive Origin where
  /-- The present, moved by an offset. -/
  | present (offset : Duration .tick)
  /-- The first whole second not before the present, moved by an offset. -/
  | nextSecond (offset : Duration .tick)
  /-- A given timestamp. -/
  | fixed (time : Timestamp .tick)
  /-- Tick zero. -/
  | epoch
deriving DecidableEq, Repr

namespace Origin

instance : Inhabited Origin := ⟨.epoch⟩

/-- By how much the chosen time is moved; a time that is given outright is not moved. -/
def offset : Origin → Duration .tick
  | .present offset => offset
  | .nextSecond offset => offset
  | .fixed _ => 0
  | .epoch => 0

/-- Whether resolving looks at the clock. -/
def readsClock : Origin → Bool
  | .present _ => true
  | .nextSecond _ => true
  | .fixed _ => false
  | .epoch => false

/-- Why an origin has no timestamp. -/
inductive Error where
  | clock (fault : Reading.Fault)
  /-- The offset leads out of the range of ticks. -/
  | outOfRange
deriving DecidableEq, Repr

/-- The timestamp of an origin when the present is known. -/
def place? (now : Timestamp .tick) : Origin → Option (Timestamp .tick)
  | .present offset => now.add? offset
  | .nextSecond offset => now.nextSecond?.bind (·.add? offset)
  | .fixed time => some time
  | .epoch => some .epoch

/-- The timestamp of an origin when the present is known, or the error that there is none. -/
def resolveAt (now : Timestamp .tick) (origin : Origin) : Except Error (Timestamp .tick) :=
  match origin.place? now with
  | none => .error .outOfRange
  | some start => .ok start

/-- The timestamp of an origin.  The clock is looked at only where the origin depends on it. -/
def resolve (origin : Origin) (clock : Reading) : Except Error (Timestamp .tick) :=
  if origin.readsClock then
    match clock.ticks with
    | .error fault => .error (.clock fault)
    | .ok now => origin.resolveAt now
  else origin.resolveAt .epoch

/-! ## Origins that are given outright -/

@[simp] theorem resolve_fixed (time : Timestamp .tick) (clock : Reading) :
    (fixed time).resolve clock = .ok time := rfl

@[simp] theorem resolve_epoch (clock : Reading) : epoch.resolve clock = .ok .epoch := rfl

/-- An origin that does not look at the clock has one timestamp at all times. -/
theorem exists_resolve_eq_ok {origin : Origin} (h : origin.readsClock = false) :
    ∃ start, ∀ clock, origin.resolve clock = .ok start := by
  cases origin with
  | present _ => cases h
  | nextSecond _ => cases h
  | fixed time => exact ⟨time, resolve_fixed time⟩
  | epoch => exact ⟨.epoch, resolve_epoch⟩

end Origin

end FrameTiming
