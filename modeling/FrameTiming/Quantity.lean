import FrameTiming.Reading
import FrameTiming.Timestamp.Text

/-!
# Chains of operations

A quantity is a duration or a timestamp in either timebase.  An operation takes one quantity to
another, possibly of another kind; it is refused when its result does not fit, and also when it
has no meaning for the kind at hand.

* `Quantity.perform?` — one operation.
* `Quantity.step` — one operation in a chain, where a refused operation leaves the quantity as
  it was.
* `Quantity.trace` — a whole chain: after every operation the quantity, and whether the operation
  was accepted.
-/

namespace FrameTiming

/-- A duration or a timestamp. -/
inductive Quantity where
  | duration {b : Timebase} (d : Duration b)
  | timestamp {b : Timebase} (t : Timestamp b)
deriving DecidableEq, Repr

namespace Quantity

/-- What a quantity measures, and in which unit. -/
inductive Kind where
  | duration (b : Timebase)
  | timestamp (b : Timebase)
deriving DecidableEq, Repr

def kind : Quantity → Kind
  | .duration (b := b) _ => .duration b
  | .timestamp (b := b) _ => .timestamp b

/-- The count of a quantity's units. -/
def count : Quantity → Int64
  | .duration d => d.count
  | .timestamp t => t.count

def ofCount (kind : Kind) (count : Int64) : Quantity :=
  match kind with
  | .duration b => .duration (⟨count⟩ : Duration b)
  | .timestamp b => .timestamp (⟨count⟩ : Timestamp b)

@[simp] theorem kind_ofCount (k : Kind) (n : Int64) : (ofCount k n).kind = k := by
  cases k <;> rfl

@[simp] theorem count_ofCount (k : Kind) (n : Int64) : (ofCount k n).count = n := by
  cases k <;> rfl

/-- Kind and count decide a quantity. -/
@[simp] theorem ofCount_kind_count (q : Quantity) : ofCount q.kind q.count = q := by
  cases q <;> rfl

/-- A quantity as it appears in a log. -/
def text : Quantity → String
  | .duration d => d.text
  | .timestamp t => t.text

/-! ## Operations -/

/-- What can be done to a quantity.  Numbers count units of the quantity's own timebase, except
for the plain factors of `mul` and `div`. -/
inductive Operation where
  | add (n : Int64)
  | sub (n : Int64)
  | neg
  | mul (k : Int64)
  | div (k : Int64)
  /-- Takes a duration out of a duration as often as it goes. -/
  | rem (n : Int64)
  /-- Measures a timestamp from another. -/
  | since (n : Int64)
  /-- Measures a timestamp from the epoch. -/
  | sinceEpoch
  /-- Moves a timestamp by the duration. -/
  | after (n : Int64)
  | convert
  /-- Sets a nanosecond clock to a timestamp and reads it. -/
  | throughClock
deriving DecidableEq, Repr

def convertDuration? : {b : Timebase} → Duration b → Option Quantity
  | .nanosecond, d => some (.duration d.toTicks)
  | .tick, d => d.toNanos?.map .duration

def convertTimestamp? : {b : Timebase} → Timestamp b → Option Quantity
  | .nanosecond, t => some (.timestamp t.toTicks)
  | .tick, t => t.toNanos?.map .timestamp

/-- Sets a nanosecond clock to a timestamp and reads it; no clock counts ticks here. -/
def throughClock? : {b : Timebase} → Timestamp b → Option Quantity
  | .nanosecond, t => t.reading.timestamp?.map .timestamp
  | .tick, _ => none

def performOnDuration? {b : Timebase} (d : Duration b) : Operation → Option Quantity
  | .add n => (d.add? ⟨n⟩).map .duration
  | .sub n => (d.sub? ⟨n⟩).map .duration
  | .neg => d.neg?.map .duration
  | .mul k => (d.mul? k).map .duration
  | .div k => (d.div? k).map .duration
  | .rem n => (d.rem? ⟨n⟩).map .duration
  | .after n => ((⟨n⟩ : Timestamp b).add? d).map .timestamp
  | .convert => convertDuration? d
  | .since _ | .sinceEpoch | .throughClock => none

def performOnTimestamp? {b : Timebase} (t : Timestamp b) : Operation → Option Quantity
  | .add n => (t.add? ⟨n⟩).map .timestamp
  | .sub n => (t.sub? ⟨n⟩).map .timestamp
  | .since n => (t.since? ⟨n⟩).map .duration
  | .sinceEpoch => some (.duration t.sinceEpoch)
  | .convert => convertTimestamp? t
  | .throughClock => throughClock? t
  | .neg | .mul _ | .div _ | .rem _ | .after _ => none

/-- The result of an operation, refused when it does not fit or has no meaning. -/
def perform? : Quantity → Operation → Option Quantity
  | .duration d, op => performOnDuration? d op
  | .timestamp t, op => performOnTimestamp? t op

/-! ## Chains -/

/-- One operation of a chain: a refused one changes nothing. -/
def step (q : Quantity) (op : Operation) : Quantity := (q.perform? op).getD q

/-- The quantity after every operation of a chain, and whether the operation was accepted. -/
def trace (q : Quantity) : List Operation → List (Bool × Quantity)
  | [] => []
  | op :: ops => ((q.perform? op).isSome, q.step op) :: (q.step op).trace ops

end Quantity

end FrameTiming
