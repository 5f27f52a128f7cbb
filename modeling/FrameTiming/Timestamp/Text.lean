import FrameTiming.Calendar.Rfc3339

/-!
# Timestamps in a log

A nanosecond timestamp is logged as date and time.  A tick timestamp is logged as its count, with
date and time in brackets behind it; far from the epoch its nanoseconds do not fit, there is no
date, and the count stands alone.
-/

namespace FrameTiming.Timestamp

/-- A nanosecond timestamp in a log: date and time. -/
def nanosText (t : Timestamp .nanosecond) : String := t.unixTime.rfc3339

/-- A tick timestamp in a log: the ticks, and date and time in brackets when there are any. -/
def ticksText (t : Timestamp .tick) : String :=
  match t.unixTime? with
  | none => t.sinceEpoch.text
  | some time => t.sinceEpoch.text ++ " (" ++ time.rfc3339 ++ ")"

/-- A timestamp as it appears in a log. -/
def text : {b : Timebase} → Timestamp b → String
  | .nanosecond, t => t.nanosText
  | .tick, t => t.ticksText

end FrameTiming.Timestamp
