import FrameTiming.Proofs.ClockReading
import FrameTiming.Proofs.RoundTrip
import FrameTiming.Quantity.Exact

/-!
# Chains of operations are exact

`Quantity.trace` follows a quantity through a list of operations in machine words, each of which
may refuse.  `Exact.trace` follows an integer of any size through the same list.  This module says
that the two never part: nothing wraps, nothing saturates, and nothing is refused without need.

* `Exact.kept` — what becomes of an exact result: the quantity it names if it fits a word.
* `perform?_eq_bind_kept` — a machine operation is the exact result, kept.  There is one case for
  each operation on a duration and one for each on a timestamp, and everything below follows from
  it.
* `trace_exact` — the run, by induction on its operations.
* `Exact.perform?_eq_none_iff` — all the reasons for which the reference refuses.

**Two ways to be refused.**  An operation without an exact result (a division by zero) and one
whose result does not fit are told apart in the reference, while the machine tests for both at
once.  The quotient `-2^63 / -1` is of the second kind, and its remainder, zero, fits; that it is
refused all the same is the one entry of the reference that arithmetic does not force.
-/

namespace FrameTiming

/-! ## Quotient and remainder as exact results -/

namespace Word

lemma div?_eq_ofInt? {a b : Int64} (hb : b.toInt ≠ 0) :
    div? a b = ofInt? (a.toInt.tdiv b.toInt) := by
  by_cases h : Indivisible a b
  · -- the one quotient that does not fit
    obtain ⟨ha, hb'⟩ := (indivisible_iff.1 h).resolve_left hb
    rw [div?, if_pos h, ha, hb']
    rfl
  · rw [div?, if_neg h, ← toInt_div_of_not_indivisible h, ofInt?_toInt]

lemma rem?_eq_ofInt? {a b : Int64} (h : ¬ Indivisible a b) :
    rem? a b = ofInt? (a.toInt.tmod b.toInt) := by
  rw [rem?, if_neg h, ← Int64.toInt_mod, ofInt?_toInt]

end Word

namespace Quantity

/-! ## Exact results that are kept -/

namespace Exact

/-- The quantity of an exact result, if it fits a word. -/
def kept (x : Exact) : Option Quantity := (Word.ofInt? x.value).map (ofCount x.kind)

/-- A quantity is kept as it is. -/
@[simp] lemma kept_exact (q : Quantity) : q.exact.kept = some q := by
  simp [kept, exact]

/-- Read exactly, what is kept is what fits. -/
lemma map_exact_kept (x : Exact) :
    x.kept.map exact = (some x).filter fun y => decide (Fits y.value) := by
  obtain ⟨kind, n⟩ := x
  rw [kept, Word.ofInt?, Option.filter_some]
  by_cases hn : Fits n
  · rw [if_pos hn, if_pos (decide_eq_true hn), Option.map_some, Option.map_some, exact,
      kind_ofCount, count_ofCount, Word.toInt_ofInt hn]
  · rw [if_neg hn, if_neg (by simpa using hn), Option.map_none, Option.map_none]

lemma kept_duration {b : Timebase} (n : ℤ) :
    kept ⟨.duration b, n⟩ = (Duration.ofCount? (Word.ofInt? n)).map (.duration (b := b)) := by
  rw [kept, Duration.ofCount?, Option.map_map]
  rfl

lemma kept_timestamp {b : Timebase} (n : ℤ) :
    kept ⟨.timestamp b, n⟩ = (Timestamp.ofCount? (Word.ofInt? n)).map (.timestamp (b := b)) := by
  rw [kept, Timestamp.ofCount?, Option.map_map]
  rfl

end Exact

/-! ## One operation -/

/-- To ticks every duration is kept, from ticks what fits. -/
lemma convertDuration?_eq_kept {b : Timebase} (d : Duration b) :
    convertDuration? d =
      Exact.kept ⟨.duration (Exact.convert b d.toInt).1, (Exact.convert b d.toInt).2⟩ := by
  cases b with
  | nanosecond =>
    have hticks := Rate.exact_nanos_ticks d.toInt ▸ d.toInt_toTicks
    rw [convertDuration?, ← Exact.kept_exact, exact]
    simp only [Exact.convert, ← hticks]
    rfl
  | tick =>
    rw [convertDuration?, Duration.toNanos?, Duration.nanoseconds?,
      Duration.toNanos?_ticksPerSecond, Rate.exact_ticks_nanos, ← Exact.kept_duration]
    rfl

lemma convertTimestamp?_eq_kept {b : Timebase} (t : Timestamp b) :
    convertTimestamp? t =
      Exact.kept ⟨.timestamp (Exact.convert b t.toInt).1, (Exact.convert b t.toInt).2⟩ := by
  cases b with
  | nanosecond =>
    have hticks := Rate.exact_nanos_ticks t.toInt ▸ t.toInt_toTicks
    rw [convertTimestamp?, ← Exact.kept_exact, exact]
    simp only [Exact.convert, ← hticks]
    rfl
  | tick =>
    rw [convertTimestamp?, Timestamp.toNanos?, Duration.toNanos?_ticksPerSecond,
      Rate.exact_ticks_nanos, ← Exact.kept_timestamp]
    rfl

lemma performOnDuration?_eq_bind_kept {b : Timebase} (d : Duration b) (op : Operation) :
    performOnDuration? d op = (Exact.result? ⟨.duration b, d.toInt⟩ op).bind Exact.kept := by
  cases op with
  | add n =>
    rw [performOnDuration?, Duration.add?, Word.add?_eq_ofInt?, ← Exact.kept_duration]
    rfl
  | sub n =>
    rw [performOnDuration?, Duration.sub?, Word.sub?_eq_ofInt?, ← Exact.kept_duration]
    rfl
  | neg =>
    rw [performOnDuration?, Duration.neg?, Word.neg?_eq_ofInt?, ← Exact.kept_duration]
    rfl
  | mul k =>
    rw [performOnDuration?, Duration.mul?, Word.mul?_eq_ofInt?, ← Exact.kept_duration]
    rfl
  | div k =>
    rw [performOnDuration?, Duration.div?, Exact.result?]
    split_ifs with hk
    · rw [Word.div?, if_pos (Word.indivisible_iff.2 (Or.inl hk))]
      rfl
    · rw [Word.div?_eq_ofInt? hk, ← Exact.kept_duration]
      rfl
  | rem n =>
    rw [performOnDuration?, Duration.rem?, Exact.result?]
    split_ifs with hn
    · rw [Word.rem?, if_pos (Word.indivisible_iff.2 hn)]
      rfl
    · rw [Word.rem?_eq_ofInt? (mt Word.indivisible_iff.1 hn), ← Exact.kept_duration]
      rfl
  | after n =>
    rw [performOnDuration?, Timestamp.add?, Word.add?_eq_ofInt?, ← Exact.kept_timestamp]
    rfl
  | convert =>
    rw [performOnDuration?, convertDuration?_eq_kept]
    rfl
  | since n => rfl
  | sinceEpoch => rfl
  | throughClock => rfl

lemma performOnTimestamp?_eq_bind_kept {b : Timebase} (t : Timestamp b) (op : Operation) :
    performOnTimestamp? t op = (Exact.result? ⟨.timestamp b, t.toInt⟩ op).bind Exact.kept := by
  cases op with
  | add n =>
    rw [performOnTimestamp?, Timestamp.add?, Word.add?_eq_ofInt?, ← Exact.kept_timestamp]
    rfl
  | sub n =>
    rw [performOnTimestamp?, Timestamp.sub?, Word.sub?_eq_ofInt?, ← Exact.kept_timestamp]
    rfl
  | since n =>
    rw [performOnTimestamp?, Timestamp.since?, Word.sub?_eq_ofInt?, ← Exact.kept_duration]
    rfl
  | sinceEpoch =>
    rw [performOnTimestamp?, ← Exact.kept_exact]
    rfl
  | convert =>
    rw [performOnTimestamp?, convertTimestamp?_eq_kept]
    rfl
  | throughClock =>
    cases b with
    | nanosecond =>
      rw [performOnTimestamp?, throughClock?, Timestamp.timestamp?_reading, Option.map_some,
        ← Exact.kept_exact]
      rfl
    | tick => rfl
  | neg => rfl
  | mul k => rfl
  | div k => rfl
  | rem n => rfl
  | after n => rfl

/-- **A machine operation is the exact result, kept if it fits.** -/
theorem perform?_eq_bind_kept (q : Quantity) (op : Operation) :
    q.perform? op = (q.exact.result? op).bind Exact.kept := by
  cases q with
  | duration d => exact performOnDuration?_eq_bind_kept d op
  | timestamp t => exact performOnTimestamp?_eq_bind_kept t op

/-- The machine and the reference accept the same operations, with the same results. -/
lemma map_exact_perform? (q : Quantity) (op : Operation) :
    (q.perform? op).map exact = q.exact.perform? op := by
  rw [perform?_eq_bind_kept, Exact.perform?]
  cases q.exact.result? op with
  | none => rfl
  | some y => exact y.map_exact_kept

/-! ## Chains -/

lemma exact_step (q : Quantity) (op : Operation) : (q.step op).exact = q.exact.step op := by
  rw [step, Exact.step, ← map_exact_perform?, Option.getD_map]

/-- **A chain of machine operations goes as the reference goes.** -/
theorem trace_exact (q : Quantity) (ops : List Operation) :
    (q.trace ops).map (fun s => (s.1, s.2.exact)) = q.exact.trace ops := by
  induction ops generalizing q with
  | nil => rfl
  | cons op ops ih =>
    simp only [trace, Exact.trace, List.map_cons, ih, exact_step, ← map_exact_perform?,
      Option.isSome_map]

/-! ## What is refused -/

/-- The operations that have a meaning for durations: all that do not measure a timestamp. -/
def Operation.AppliesToDuration : Operation → Prop
  | .add _ | .sub _ | .neg | .mul _ | .div _ | .rem _ | .after _ | .convert => True
  | .since _ | .sinceEpoch | .throughClock => False

/-- The operations that have a meaning for timestamps; only nanoseconds go through a clock. -/
def Operation.AppliesToTimestamp (b : Timebase) : Operation → Prop
  | .add _ | .sub _ | .since _ | .sinceEpoch | .convert => True
  | .throughClock => b = .nanosecond
  | .neg | .mul _ | .div _ | .rem _ | .after _ => False

/-- The operations that have a meaning for a kind of quantity. -/
def Operation.AppliesTo (op : Operation) : Kind → Prop
  | .duration _ => op.AppliesToDuration
  | .timestamp b => op.AppliesToTimestamp b

lemma toInt_eq_zero_iff {k : Int64} : k.toInt = 0 ↔ k = 0 := by
  rw [← Int64.toInt_inj, Int64.toInt_zero]

lemma toInt_eq_neg_one_iff {k : Int64} : k.toInt = -1 ↔ k = -1 := by
  rw [← Int64.toInt_inj]
  rfl

namespace Exact

lemma result?_eq_none_iff {x : Exact} {op : Operation} :
    x.result? op = none ↔ ¬ op.AppliesTo x.kind ∨ op = .div 0 ∨ op = .rem 0 ∨
      (op = .rem (-1) ∧ x.value = -9223372036854775808) := by
  obtain ⟨kind, n⟩ := x
  cases kind with
  | duration b =>
    rw [Operation.AppliesTo]
    cases op with
    | div k => simp [result?, Operation.AppliesToDuration, toInt_eq_zero_iff]
    | rem m =>
      simp [result?, Operation.AppliesToDuration, toInt_eq_zero_iff, toInt_eq_neg_one_iff,
        and_comm, or_iff_not_imp_left]
    | _ => simp [result?, Operation.AppliesToDuration]
  | timestamp b =>
    rw [Operation.AppliesTo]
    cases op with
    | throughClock => cases b <;> simp [result?, Operation.AppliesToTimestamp]
    | _ => simp [result?, Operation.AppliesToTimestamp]

/-- **All the reasons to refuse.**  An operation is refused when it has no meaning for the kind of
quantity, when the divisor is zero, for the remainder of the least word by minus one, and
otherwise exactly when its result does not fit. -/
theorem perform?_eq_none_iff {x : Exact} {op : Operation} :
    x.perform? op = none ↔
      (¬ op.AppliesTo x.kind ∨ op = .div 0 ∨ op = .rem 0 ∨
        (op = .rem (-1) ∧ x.value = -9223372036854775808)) ∨
      ∃ y, x.result? op = some y ∧ ¬ Fits y.value := by
  rw [← result?_eq_none_iff, perform?]
  cases x.result? op <;> simp

end Exact

/-- **Nothing wraps or saturates along a chain.**  From every quantity and through every list of
operations, machine words and unbounded integers accept the same steps and arrive at the same
values.  An operation that has a meaning is refused only for a zero divisor, for the remainder of
the least word by minus one, or because its exact result does not fit; conversions to ticks are
never refused. -/
theorem chain_isExact :
    (∀ (q : Quantity) (ops : List Operation),
      (q.trace ops).map (fun s => (s.1, s.2.exact)) = q.exact.trace ops) ∧
    (∀ (q : Quantity) (op : Operation), q.perform? op = none ↔
      (¬ op.AppliesTo q.kind ∨ op = .div 0 ∨ op = .rem 0 ∨
        (op = .rem (-1) ∧ q.count.toInt = -9223372036854775808)) ∨
      ∃ y, q.exact.result? op = some y ∧ ¬ Fits y.value) ∧
    (∀ d : Duration .nanosecond, ((Quantity.duration d).perform? .convert).isSome) ∧
    (∀ t : Timestamp .nanosecond, ((Quantity.timestamp t).perform? .convert).isSome) := by
  refine ⟨trace_exact, fun q op => ?_, fun d => rfl, fun t => rfl⟩
  rw [← Option.map_eq_none_iff, map_exact_perform?, Exact.perform?_eq_none_iff]
  rfl

end Quantity

end FrameTiming
