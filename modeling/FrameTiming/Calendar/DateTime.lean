import FrameTiming.Calendar.Date
import FrameTiming.Calendar.UnixTime

/-!
# Date and time of day

A `DateTime` names a point in time in UTC by its date, its time of day and the nanoseconds into
its second.  `DateTime.ofUnix` finds the fields of a second, `DateTime.unixSeconds` counts the
second of the fields, and `unixSeconds_ofUnix` says that nothing is lost between the two.
-/

namespace FrameTiming

/-- A point in time in UTC, by calendar and clock. -/
@[ext] structure DateTime where
  date : Date
  hour : Nat
  minute : Nat
  second : Nat
  nanosecond : Nat
deriving DecidableEq, Repr

namespace DateTime

/-- A point in time exists when its date does and its clock fields are in range.  Nanoseconds
are not bounded: the fields denote whatever number of them was given. -/
def Valid (t : DateTime) : Prop := t.date.Valid ∧ t.hour < 24 ∧ t.minute < 60 ∧ t.second < 60

instance (t : DateTime) : Decidable t.Valid := inferInstanceAs (Decidable (_ ∧ _))

/-- The seconds from the epoch to the start of the second that the fields name. -/
def unixSeconds (t : DateTime) : Int :=
  86400 * t.date.dayNumber + 3600 * t.hour + 60 * t.minute + t.second

/-- The fields of a number of seconds since the epoch. -/
def ofUnix (seconds : Int) (nanosecond : Nat) : DateTime :=
  let ofDay := (seconds % 86400).toNat
  { date := Date.ofDayNumber (seconds / 86400)
    hour := ofDay / 3600
    minute := ofDay / 60 % 60
    second := ofDay % 60
    nanosecond }

/-- **Every second has fields that exist.** -/
theorem valid_ofUnix (seconds : Int) (nanosecond : Nat) : (ofUnix seconds nanosecond).Valid := by
  refine ⟨Date.valid_ofDayNumber _, ?_, ?_, ?_⟩ <;> simp only [ofUnix] <;> omega

/-- **The fields of a second count that second.** -/
theorem unixSeconds_ofUnix (seconds : Int) (nanosecond : Nat) :
    (ofUnix seconds nanosecond).unixSeconds = seconds := by
  simp only [unixSeconds, ofUnix, Date.dayNumber_ofDayNumber]
  omega

end DateTime

/-- The calendar fields of a point in time. -/
def UnixTime.dateTime (t : UnixTime) : DateTime :=
  DateTime.ofUnix t.seconds.toInt t.nanoseconds.toNat

end FrameTiming
