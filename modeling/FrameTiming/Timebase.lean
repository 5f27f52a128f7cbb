/-!
# Timebases

Times are counted in one of two units: nanoseconds, in which wall clocks report, and ticks of the
90 kHz clock that stamps encoded video.

* `Timebase` — the unit of a count.
* `Timebase.rate` — how many of them make a second.

The remaining constants are the lengths of the larger units.
-/

namespace FrameTiming

/-- The unit in which a duration or a timestamp is counted. -/
inductive Timebase where
  /-- Nanoseconds of wall-clock time. -/
  | nanosecond
  /-- Ticks of the 90 kHz presentation clock. -/
  | tick
deriving DecidableEq, Repr

/-! ## Lengths of the units -/

def nanosPerMicrosecond : Int64 := 1000

def nanosPerMillisecond : Int64 := 1000000

def nanosPerSecond : Int64 := 1000000000

def nanosPerMinute : Int64 := nanosPerSecond * 60

def nanosPerHour : Int64 := nanosPerMinute * 60

def ticksPerSecond : Int64 := 90000

def ticksPerMillisecond : Int64 := ticksPerSecond / 1000

def Timebase.rate : Timebase → Int64
  | .nanosecond => nanosPerSecond
  | .tick => ticksPerSecond

/-! ## The same constants as integers -/

@[simp] theorem toInt_nanosPerMillisecond : nanosPerMillisecond.toInt = 1000000 := rfl

@[simp] theorem toInt_nanosPerSecond : nanosPerSecond.toInt = 1000000000 := rfl

@[simp] theorem toInt_nanosPerMinute : nanosPerMinute.toInt = 60000000000 := rfl

@[simp] theorem toInt_nanosPerHour : nanosPerHour.toInt = 3600000000000 := rfl

@[simp] theorem toInt_ticksPerSecond : ticksPerSecond.toInt = 90000 := rfl

end FrameTiming
