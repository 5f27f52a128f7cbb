import FrameTiming.Quantity

/-!
# Chains over unbounded integers

The same operations on an integer of any size, so that nothing can overflow on the way.  A value
is kept only if it fits a word; whether it does is asked of the final exact result and of nothing
else.  This is the measure for chains of machine operations: they should refuse the same steps
and otherwise arrive at the same values.
-/

namespace FrameTiming.Quantity

/-- A kind of quantity with a count of any size. -/
@[ext] structure Exact where
  kind : Kind
  value : Int
deriving DecidableEq, Repr

/-- The exact reading of a quantity. -/
def exact (q : Quantity) : Exact := ⟨q.kind, q.count.toInt⟩

/-- Different quantities have different exact readings. -/
theorem exact_inj {p q : Quantity} : p.exact = q.exact ↔ p = q := by
  constructor
  · intro h
    rw [exact, exact, Exact.mk.injEq] at h
    rw [← ofCount_kind_count p, ← ofCount_kind_count q, h.1, Int64.toInt_inj.1 h.2]
  · rintro rfl; rfl

namespace Exact

/-- The other timebase, and the count in it truncated toward zero.  A tick is 100 000 / 9
nanoseconds. -/
def convert : Timebase → Int → Timebase × Int
  | .nanosecond, n => (.tick, (n * 9).tdiv 100000)
  | .tick, n => (.nanosecond, (n * 100000).tdiv 9)

/-- The result of an operation without any bound on its size; none where there is nothing to
compute.  The remainder of the least word by minus one counts among those, as the quotient it
belongs to is out of range. -/
def result? : Exact → Operation → Option Exact
  | ⟨kind, n⟩, .add m => some ⟨kind, n + m.toInt⟩
  | ⟨kind, n⟩, .sub m => some ⟨kind, n - m.toInt⟩
  | ⟨.duration b, n⟩, .neg => some ⟨.duration b, -n⟩
  | ⟨.duration b, n⟩, .mul k => some ⟨.duration b, n * k.toInt⟩
  | ⟨.duration b, n⟩, .div k =>
    if k.toInt = 0 then none else some ⟨.duration b, n.tdiv k.toInt⟩
  | ⟨.duration b, n⟩, .rem m =>
    if m.toInt = 0 ∨ (n = -9223372036854775808 ∧ m.toInt = -1) then none
    else some ⟨.duration b, n.tmod m.toInt⟩
  | ⟨.duration b, n⟩, .after m => some ⟨.timestamp b, m.toInt + n⟩
  | ⟨.duration b, n⟩, .convert => some ⟨.duration (convert b n).1, (convert b n).2⟩
  | ⟨.timestamp b, n⟩, .convert => some ⟨.timestamp (convert b n).1, (convert b n).2⟩
  | ⟨.timestamp b, n⟩, .since m => some ⟨.duration b, n - m.toInt⟩
  | ⟨.timestamp b, n⟩, .sinceEpoch => some ⟨.duration b, n⟩
  | ⟨.timestamp .nanosecond, n⟩, .throughClock => some ⟨.timestamp .nanosecond, n⟩
  | _, _ => none

/-- The result of an operation, refused when it does not fit. -/
def perform? (x : Exact) (op : Operation) : Option Exact :=
  (x.result? op).filter fun y => decide (Fits y.value)

/-- One operation of a chain: a refused one changes nothing. -/
def step (x : Exact) (op : Operation) : Exact := (x.perform? op).getD x

/-- The value after every operation of a chain, and whether the operation was accepted. -/
def trace (x : Exact) : List Operation → List (Bool × Exact)
  | [] => []
  | op :: ops => ((x.perform? op).isSome, x.step op) :: (x.step op).trace ops

end Exact

end FrameTiming.Quantity
