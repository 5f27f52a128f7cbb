import FrameTiming.Cadence.Session

/-!
# A cadence as one counter

A cadence keeps its frames, its elapsed ticks and its current timestamp in three words, and a step
checks four times that nothing overflows.  A `Counter` keeps where frame zero is and how many
frames have passed since, over unbounded integers; all else follows from the two.

* `Counter.elapsed`, `Counter.due` — the ticks since frame zero, and the tick of the current frame.
* `Counter.step`, `Counter.run` — the events of a session on a counter.  An advance is accepted
  exactly when the new elapsed ticks and the new due tick are at most `2^63 - 1`.
* `Session.counter`, `Session.Transcript.counted` — what a counter sees of a session and of what
  has been seen of it.

The current timestamp of a session is no part of its counter: after a restart that failed it is
not what the counter says.
-/

namespace FrameTiming.Cadence

/-- A cadence without its redundant counters, and the clock it reads. -/
structure Counter where
  /-- Ticks to a frame. -/
  frameDuration : Int
  /-- Where frame zero goes after a restart. -/
  origin : Origin
  /-- What the wall clock shows. -/
  clock : Reading
  /-- The tick of frame zero. -/
  start : Int
  /-- Frames since frame zero. -/
  frames : Nat
deriving DecidableEq, Repr

namespace Counter

/-- The ticks since frame zero. -/
def elapsed (k : Counter) : Int := k.frameDuration * k.frames

/-- The tick at which the current frame is due. -/
def due (k : Counter) : Int := k.start + k.elapsed

/-- Whether the current frame can be stamped. -/
def InRange (k : Counter) : Prop :=
  k.elapsed ≤ 9223372036854775807 ∧ k.due ≤ 9223372036854775807

instance (k : Counter) : Decidable k.InRange := inferInstanceAs (Decidable (_ ∧ _))

/-- The counter `n` frames later. -/
def ahead (k : Counter) (n : Nat) : Counter := { k with frames := k.frames + n }

/-- The answer to an event, with an unbounded timestamp. -/
inductive Answer where
  /-- The tick of the new current frame. -/
  | stamped (time : Int)
  | refused
  | done
  /-- There is no start in range. -/
  | failed
deriving DecidableEq, Repr

def step (k : Counter) : Session.Event → Except Reading.Fault (Answer × Counter)
  | .advance n =>
    if (k.ahead n.toNat).InRange then .ok (.stamped (k.ahead n.toNat).due, k.ahead n.toNat)
    else .ok (.refused, k)
  | .restart =>
    match k.origin.resolve k.clock with
    | .error (.clock fault) => .error fault
    | .error .outOfRange => .ok (.failed, { k with frames := 0 })
    | .ok start => .ok (.done, { k with start := start.toInt, frames := 0 })
  | .clock reading => .ok (.done, { k with clock := reading })

/-- A list of events, up to the first fault: every answer with the counter after it, and the
fault. -/
def run (k : Counter) : List Session.Event → List (Answer × Counter) × Option Reading.Fault
  | [] => ([], none)
  | e :: es =>
    match k.step e with
    | .error fault => ([], some fault)
    | .ok (answer, next) => ((answer, next) :: (next.run es).1, (next.run es).2)

end Counter

/-! ## What a counter sees of a session -/

namespace Session

/-- The counter of a session. -/
def counter (s : Session) : Counter where
  frameDuration := s.cadence.frameDuration.toInt
  origin := s.cadence.origin
  clock := s.clock
  start := s.cadence.start.toInt
  frames := s.cadence.frames.toNat

/-- An answer as a counter gives it. -/
def Answer.counted : Answer → Counter.Answer
  | .stamped time => .stamped time.toInt
  | .refused => .refused
  | .done => .done
  | .failed _ => .failed

/-- What has been seen of a session, as a counter shows it. -/
def Transcript.counted (t : Transcript) : List (Counter.Answer × Counter) × Option Reading.Fault :=
  (t.entries.map fun entry => (entry.1.counted, entry.2.counter), t.fault)

end Session

end FrameTiming.Cadence
