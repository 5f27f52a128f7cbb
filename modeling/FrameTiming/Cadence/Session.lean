import FrameTiming.Cadence

/-!
# A cadence in use

A session is a cadence together with what the wall clock shows.  Its user moves on by frames and
starts over; the clock changes on its own.

* `Session.step` — one event.  A broken clock ends the session with a fault; every other failure
  is answered and the session goes on with whatever state it is in.
* `Session.run` — a list of events: the answer to each and the session after it, up to the first
  fault.
* `Session.Transcript.Succeeds` — nothing in a run was refused, failed or ended it.
* `Session.Reachable` — the sessions that a cadence can get into.
-/

namespace FrameTiming.Cadence

/-- A cadence and the clock it reads. -/
structure Session where
  /-- What the wall clock shows. -/
  clock : Reading
  cadence : Cadence
deriving DecidableEq, Repr

namespace Session

/-- What can happen to a session. -/
inductive Event where
  /-- The user moves on by `n` frames. -/
  | advance (n : UInt64)
  | restart
  | clock (reading : Reading)
deriving DecidableEq, Repr

/-- The answer to an event. -/
inductive Answer where
  /-- The timestamp of the new current frame. -/
  | stamped (time : Timestamp .tick)
  | refused
  | done
  /-- There is no start in range; the counters are cleared all the same. -/
  | failed (error : Error)
deriving DecidableEq, Repr

/-- The event did what was asked for. -/
def Answer.Succeeds : Answer → Prop
  | .stamped _ => True
  | .done => True
  | .refused => False
  | .failed _ => False

instance : DecidablePred Answer.Succeeds
  | .stamped _ => .isTrue trivial
  | .done => .isTrue trivial
  | .refused => .isFalse id
  | .failed _ => .isFalse id

/-- One event: the answer and the session after it. -/
def step (s : Session) : Event → Except Reading.Fault (Answer × Session)
  | .advance n =>
    match s.cadence.advance? n with
    | none => .ok (.refused, s)
    | some c => .ok (.stamped c.now, { s with cadence := c })
  | .restart =>
    match s.cadence.restart s.clock with
    | (_, some (.clock fault)) => .error fault
    | (c, some .outOfRange) => .ok (.failed (.origin .outOfRange), { s with cadence := c })
    | (c, none) => .ok (.done, { s with cadence := c })
  | .clock reading => .ok (.done, { s with clock := reading })

/-- What has been seen of a session: every answer with the session after it, and the fault that
ended it, if one did. -/
structure Transcript where
  entries : List (Answer × Session)
  fault : Option Reading.Fault
deriving DecidableEq, Repr

/-- Every event did what was asked for, and no fault ended the session. -/
def Transcript.Succeeds (t : Transcript) : Prop :=
  t.fault = none ∧ ∀ entry ∈ t.entries, entry.1.Succeeds

instance (t : Transcript) : Decidable t.Succeeds := inferInstanceAs (Decidable (_ ∧ _))

/-- A list of events, up to the first fault. -/
def run (s : Session) : List Event → Transcript
  | [] => ⟨[], none⟩
  | e :: es =>
    match s.step e with
    | .error fault => ⟨[], some fault⟩
    | .ok (answer, next) =>
      let later := next.run es
      ⟨(answer, next) :: later.entries, later.fault⟩

/-- A run goes on from where its first event leads. -/
theorem run_cons_of_step {s next : Session} {e : Event} {answer : Answer}
    (h : s.step e = .ok (answer, next)) (es : List Event) :
    s.run (e :: es) = ⟨(answer, next) :: (next.run es).entries, (next.run es).fault⟩ := by
  rw [run, h]

/-- A fault in the first event is all there is to a run. -/
theorem run_cons_of_fault {s : Session} {e : Event} {fault : Reading.Fault}
    (h : s.step e = .error fault) (es : List Event) : s.run (e :: es) = ⟨[], some fault⟩ := by
  rw [run, h]

/-- The sessions that a cadence of the given frame duration and origin can get into. -/
inductive Reachable (frameDuration : Duration .tick) (origin : Origin) : Session → Prop where
  | create {clock : Reading} {c : Cadence} :
      Cadence.create frameDuration origin clock = .ok c →
      Reachable frameDuration origin ⟨clock, c⟩
  | step {s next : Session} {e : Event} {answer : Answer} :
      Reachable frameDuration origin s → s.step e = .ok (answer, next) →
      Reachable frameDuration origin next

/-- Whatever a run shows of a reachable session is reachable. -/
theorem Reachable.of_mem_run {frameDuration : Duration .tick} {origin : Origin} {s : Session}
    (h : Reachable frameDuration origin s) (es : List Event) :
    ∀ entry ∈ (s.run es).entries, Reachable frameDuration origin entry.2 := by
  induction es generalizing s with
  | nil => simp [run]
  | cons e es ih =>
    intro entry hmem
    unfold run at hmem
    split at hmem
    · simp at hmem
    · next answer next hstep =>
      rcases List.mem_cons.1 hmem with rfl | hlater
      · exact h.step hstep
      · exact ih (h.step hstep) entry hlater

end Session

end FrameTiming.Cadence
