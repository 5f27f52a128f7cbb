import FrameTiming.Duration

/-!
# Frame rates

A frame rate is a ratio: so many frames in so many seconds, `30000` in `1001` for colour
television.  `FrameRate.frameDuration?` is the length of one frame in ticks, given only when it is
a whole number of them; a recording paced by it never drifts.
-/

namespace FrameTiming

/-- A number of frames in a number of seconds. -/
structure FrameRate where
  frames : UInt32
  /-- The seconds they take. -/
  seconds : UInt32
deriving DecidableEq, Repr

/-- The length of one frame, refused when there are no frames, no seconds, or no whole number of
ticks to a frame. -/
def FrameRate.frameDuration? (rate : FrameRate) : Option (Duration .tick) :=
  let total := ticksPerSecond * Word.ofCount rate.seconds
  let frames := Word.ofCount rate.frames
  if rate.frames = 0 ∨ rate.seconds = 0 ∨ total % frames ≠ 0 then none
  else some ⟨total / frames⟩

end FrameTiming
