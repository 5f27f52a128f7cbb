import FrameTiming.FrameRate
import FrameTiming.Origin

/-!
# Stamping frames

A cadence stamps frames of one fixed duration.  Frame `n` is due at `start + n * frameDuration`,
always computed in whole ticks, so a long recording does not drift.

* `Cadence.create` — a cadence at frame zero, its start resolved from an origin.
* `Cadence.advance?` — moves on by a number of frames; refused as a whole when the next
  timestamp, or the time elapsed until it, does not fit.
* `Cadence.restart` — back to frame zero, with the start resolved again.  The counters are
  cleared before the origin is resolved, so they stay cleared when it cannot be.
-/

namespace FrameTiming

/-- A source of timestamps for frames of one duration. -/
@[ext] structure Cadence where
  /-- The length of every frame. -/
  frameDuration : Duration .tick
  /-- Where frame zero goes, now and after every restart. -/
  origin : Origin
  /-- The timestamp of frame zero. -/
  start : Timestamp .tick
  /-- The timestamp of the current frame. -/
  now : Timestamp .tick
  /-- The time since frame zero. -/
  elapsed : Duration .tick
  /-- The number of frames since frame zero. -/
  frames : UInt64
deriving DecidableEq, Repr

namespace Cadence

/-- Why there is no cadence. -/
inductive Error where
  /-- Frames must take time. -/
  | frameNotPositive
  | origin (cause : Origin.Error)
deriving DecidableEq, Repr

def Error.message : Error → String
  | .frameNotPositive => "frame duration must be positive"
  | .origin .outOfRange => "start time offset overflows the tick range"
  | .origin (.clock fault) => fault.message

/-! ## Creation -/

/-- A cadence that has not moved from its start. -/
def atStart (frameDuration : Duration .tick) (origin : Origin) (start : Timestamp .tick) :
    Cadence where
  frameDuration := frameDuration
  origin := origin
  start := start
  now := start
  elapsed := 0
  frames := 0

/-- A cadence at frame zero.  The frame duration is examined before the clock is read. -/
def create (frameDuration : Duration .tick) (origin : Origin) (clock : Reading) :
    Except Error Cadence :=
  if frameDuration ≤ 0 then .error .frameNotPositive
  else match origin.resolve clock with
    | .error cause => .error (.origin cause)
    | .ok start => .ok (atStart frameDuration origin start)

/-! ## Moving on -/

/-- Moves on by `n` frames, or refuses without any effect. -/
def advance? (c : Cadence) (n : UInt64) : Option Cadence :=
  if 9223372036854775808 ≤ n.toNat then none
  else do
    let delta ← c.frameDuration.mul? n.toInt64
    let elapsed ← c.elapsed.add? delta
    let now ← c.start.add? elapsed
    return { c with now, elapsed, frames := c.frames + n }

/-! ## Starting over -/

/-- Forgets the frames so far, and only those. -/
def clear (c : Cadence) : Cadence := { c with elapsed := 0, frames := 0 }

/-- Moves frame zero, and with it the current frame, to a timestamp. -/
def moveTo (c : Cadence) (start : Timestamp .tick) : Cadence := { c with start, now := start }

/-- Goes back to frame zero and resolves the origin again.  The second part says why there was
no new start; the cadence is then cleared but not moved. -/
def restart (c : Cadence) (clock : Reading) : Cadence × Option Origin.Error :=
  match c.origin.resolve clock with
  | .error cause => (c.clear, some cause)
  | .ok start => (c.clear.moveTo start, none)

/-- A restart that succeeds gives the cadence that would be created now. -/
theorem restart_of_resolve_eq_ok {c : Cadence} {clock : Reading} {start : Timestamp .tick}
    (h : c.origin.resolve clock = .ok start) :
    c.restart clock = (atStart c.frameDuration c.origin start, none) := by
  rw [restart, h]
  rfl

end Cadence

end FrameTiming
