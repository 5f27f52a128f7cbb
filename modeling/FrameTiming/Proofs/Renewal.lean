import FrameTiming.Proofs.Counting

/-!
# A restart is a new beginning

A restart clears the counters, resolves the origin and moves the cadence to its start.  A creation
examines the frame duration, resolves the origin and makes a cadence from nothing.  For a cadence
that is in use the two come to the same, faults and failures included: nothing of its past is left
over, and the frame duration that a creation would examine has been found positive before.

* `Session.renewed` — what a restart makes of the outcome of a creation.
* `step_restart_eq_renewed` — it is what a restart does, in any state of the counters.
* `restart_forgets` — the same for every session a cadence gets into, with all that can follow.
-/

namespace FrameTiming.Cadence

open Session

namespace Session

/-- A creation at the same moment, seen from the session: a cadence takes the place of the old one,
a fault ends the session, and any other error leaves the old cadence cleared. -/
def renewed (s : Session) : Except Error Cadence → Except Reading.Fault (Answer × Session)
  | .ok c => .ok (.done, { s with cadence := c })
  | .error (.origin (.clock fault)) => .error fault
  | .error error => .ok (.failed error, { s with cadence := s.cadence.clear })

variable {s : Session}

/-- A frame duration that is positive leaves only the origin to fail. -/
lemma create_eq_of_pos {d : Duration .tick} (hd : 0 < d.toInt) (origin : Origin)
    (clock : Reading) :
    Cadence.create d origin clock =
      ((origin.resolve clock).map (atStart d origin)).mapError Error.origin := by
  have hpos : ¬ d ≤ 0 := by
    rw [Duration.le_iff_toInt_le, Duration.toInt_zero]
    omega
  rw [create, if_neg hpos]
  cases origin.resolve clock <;> rfl

/-- **A restart is told by a creation.** -/
lemma step_restart_eq_renewed (hd : 0 < s.cadence.frameDuration.toInt) :
    s.step .restart =
      s.renewed (Cadence.create s.cadence.frameDuration s.cadence.origin s.clock) := by
  rw [create_eq_of_pos hd]
  rcases hres : s.cadence.origin.resolve s.clock with (fault | _) | start
  · rw [step_restart_fault hres]
    rfl
  · rw [step_restart_outOfRange hres]
    rfl
  · rw [step_restart_ok hres]
    rfl

/-- **A restart forgets.**  Whatever a session has been through and whatever the clock shows, a
restart fails and faults exactly where a creation does, with the same error; where it succeeds the
cadence is the one that is created, so nothing that follows tells the two apart.  An origin that
does not look at the clock is restored at all times, to the cadence every creation gives. -/
theorem restart_forgets {d : Duration .tick} {origin : Origin} (hs : Reachable d origin s) :
    (∀ reading, Session.step ⟨reading, s.cadence⟩ .restart =
      Session.renewed ⟨reading, s.cadence⟩ (Cadence.create d origin reading)) ∧
    (∀ reading c, Cadence.create d origin reading = .ok c →
      ∀ es, Session.run ⟨reading, s.cadence⟩ (.restart :: es) =
        ⟨(.done, ⟨reading, c⟩) :: (Session.run ⟨reading, c⟩ es).entries,
          (Session.run ⟨reading, c⟩ es).fault⟩) ∧
    (origin.readsClock = false →
      ∃ c, (∀ clock, Cadence.create d origin clock = .ok c) ∧
        ∀ reading, Session.step ⟨reading, s.cadence⟩ .restart = .ok (.done, ⟨reading, c⟩)) := by
  obtain ⟨h, rfl, rfl⟩ := hs.counted
  have hstep (reading : Reading) :=
    step_restart_eq_renewed (s := ⟨reading, s.cadence⟩) h.frameDuration_pos
  refine ⟨?_, ?_, ?_⟩
  · exact hstep
  · intro reading c hc es
    refine run_cons_of_step ?_ es
    rw [hstep, hc]
    rfl
  · intro hreads
    obtain ⟨start, hstart⟩ := Origin.exists_resolve_eq_ok hreads
    have hcreate (clock : Reading) :=
      create_eq_ok_iff.2 ⟨h.frameDuration_pos, start, hstart clock, rfl⟩
    refine ⟨_, hcreate, ?_⟩
    intro reading
    rw [hstep, hcreate]
    rfl

/-- A cadence that starts 101 ticks before the last one has moved on by two: a second later it fails
to restart as it would fail to be created, and with the old clock it begins anew.  One with a given
start is restored under a broken clock. -/
theorem restart_forgets_late_origin :
    (∃ s, Reachable ⟨1⟩ (.present ⟨9223372036854775706⟩) s ∧ s.cadence.frames = 2 ∧
      Session.step ⟨⟨.second, 1⟩, s.cadence⟩ .restart =
        .ok (.failed (.origin .outOfRange), ⟨⟨.second, 1⟩, s.cadence.clear⟩) ∧
      (Session.run ⟨⟨.second, 0⟩, s.cadence⟩ [.restart, .advance 101]).Succeeds) ∧
    ∃ s, Reachable ⟨3003⟩ (.fixed ⟨-1000⟩) s ∧ s.cadence.frames = 5 ∧
      ∃ c, Cadence.create ⟨3003⟩ (.fixed ⟨-1000⟩) ⟨.second, 0⟩ = .ok c ∧
        Session.step ⟨⟨.second, -1⟩, s.cadence⟩ .restart = .ok (.done, ⟨⟨.second, -1⟩, c⟩) := by
  have hlate : Cadence.create ⟨1⟩ (.present ⟨9223372036854775706⟩) ⟨.second, 0⟩ =
      .ok (atStart ⟨1⟩ (.present ⟨9223372036854775706⟩) ⟨9223372036854775706⟩) := by decide
  have hfixed : Cadence.create ⟨3003⟩ (.fixed ⟨-1000⟩) ⟨.second, 0⟩ =
      .ok (atStart ⟨3003⟩ (.fixed ⟨-1000⟩) ⟨-1000⟩) := by decide
  constructor
  · have hs := (Reachable.create hlate).step (e := .advance 2) rfl
    obtain ⟨hstep, hrun, -⟩ := restart_forgets hs
    refine ⟨_, hs, rfl, hstep _, ?_⟩
    rw [hrun _ _ hlate]
    decide
  · have hs := (Reachable.create hfixed).step (e := .advance 5) rfl
    obtain ⟨c, hc, hstep⟩ := (restart_forgets hs).2.2 rfl
    exact ⟨_, hs, rfl, c, hc _, hstep _⟩

end Session

end FrameTiming.Cadence
