import FrameTiming.Timestamp

/-!
# Reading a wall clock

A wall clock reports a signed count of its own units since the epoch: hours on a coarse clock,
picoseconds on a fine one, ticks on a clock that already runs at the presentation rate.

* `Resolution` — the unit a clock counts in.
* `Reading` — what a clock shows at one moment.
* `Reading.nanos?` — the reading in nanoseconds, truncated toward the epoch; refused when it
  does not fit.
* `Reading.timestamp`, `Reading.ticks`, `Reading.remaining` — the present according to the clock.
  A clock before the epoch or beyond the range of nanoseconds is broken, and no timestamp made
  from it would mean anything: the result is then a `Fault`, which ends the program.
-/

namespace FrameTiming

/-- The unit in which a wall clock counts. -/
inductive Resolution where
  | hour
  | minute
  | second
  | millisecond
  | microsecond
  | nanosecond
  | picosecond
  | tick
deriving DecidableEq, Repr

namespace Resolution

/-- The seconds in one unit, for units of a second and longer. -/
def secondsPerUnit : Resolution → Int64
  | .hour => 3600
  | .minute => 60
  | _ => 1

/-- The units in one second, for units of a second and shorter. -/
def unitsPerSecond : Resolution → Int64
  | .millisecond => 1000
  | .microsecond => 1000000
  | .nanosecond => nanosPerSecond
  | .picosecond => 1000000000000
  | .tick => ticksPerSecond
  | _ => 1

/-- The nanoseconds in one unit shorter than a second, as a fraction in lowest terms.  Longer
units leave no part of a second over. -/
def nanosPerUnit : Resolution → Int64 × Int64
  | .millisecond => (1000000, 1)
  | .microsecond => (1000, 1)
  | .nanosecond => (1, 1)
  | .picosecond => (1, 1000)
  | .tick => (100000, 9)
  | _ => (nanosPerSecond, 1)

end Resolution

/-- What a wall clock shows. -/
structure Reading where
  resolution : Resolution
  /-- Units since the epoch. -/
  count : Int64
deriving DecidableEq, Repr

namespace Reading

/-! ## In nanoseconds -/

/-- The whole seconds of a reading, truncated toward the epoch.  Only hours and minutes can be
too many. -/
def seconds? (r : Reading) : Option Int64 :=
  (Word.mul? r.count r.resolution.secondsPerUnit).map (· / r.resolution.unitsPerSecond)

/-- The nanoseconds that a reading has beyond its whole seconds, truncated toward zero. -/
def restNanos (r : Reading) : Int64 :=
  r.count % r.resolution.unitsPerSecond * r.resolution.nanosPerUnit.1
    / r.resolution.nanosPerUnit.2

/-- A reading in nanoseconds.  The whole seconds are truncated toward the epoch, so that they
never overshoot and the least word is still reached. -/
def nanos? (r : Reading) : Option Int64 := do
  let seconds ← r.seconds?
  let whole ← Word.mul? seconds nanosPerSecond
  Word.add? whole r.restNanos

/-- The point in time that a clock shows, on either side of the epoch. -/
def timestamp? (r : Reading) : Option (Timestamp .nanosecond) := Timestamp.ofCount? r.nanos?

/-! ## Faults -/

/-- The seconds that a clock shows, rounded down; this is what a fault reports. -/
def floorSeconds (r : Reading) : Int :=
  r.count.toInt * r.resolution.secondsPerUnit.toInt / r.resolution.unitsPerSecond.toInt

/-- A clock that cannot be right, and the seconds it shows. -/
inductive Fault where
  | beforeEpoch (seconds : Int)
  /-- The clock shows a time that does not fit 64-bit nanoseconds. -/
  | outOfRange (seconds : Int)
deriving DecidableEq, Repr

/-- What is wrong with the clock. -/
def Fault.reason : Fault → String
  | .beforeEpoch _ => "time went backwards past the epoch"
  | .outOfRange _ => "timestamp does not fit 64-bit nanoseconds"

def Fault.seconds : Fault → Int
  | .beforeEpoch seconds => seconds
  | .outOfRange seconds => seconds

/-- The line that is written before the program ends. -/
def Fault.message (f : Fault) : String :=
  "mediatime: fatal clock fault: " ++ f.reason ++ " (clock reports " ++
    String.ofList (Decimal.integer f.seconds) ++ " s since epoch)\n"

/-! ## The present -/

/-- The present according to a clock. -/
def timestamp (r : Reading) : Except Fault (Timestamp .nanosecond) :=
  if r.count < 0 then .error (.beforeEpoch r.floorSeconds)
  else match r.timestamp? with
    | none => .error (.outOfRange r.floorSeconds)
    | some t => .ok t

/-- The present according to a clock, in ticks. -/
def ticks (r : Reading) : Except Fault (Timestamp .tick) := r.timestamp.map Timestamp.toTicks

/-- The time left until a deadline; negative once the deadline has passed. -/
def remaining (r : Reading) (deadline : Timestamp .nanosecond) :
    Except Fault (Option (Duration .nanosecond)) :=
  r.timestamp.map deadline.since?

end Reading

/-- What a nanosecond clock shows at a point in time. -/
def Timestamp.reading (t : Timestamp .nanosecond) : Reading := ⟨.nanosecond, t.count⟩

end FrameTiming
