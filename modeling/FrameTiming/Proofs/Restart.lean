import FrameTiming.Proofs.Counting

/-!
# What a restart leaves

A cadence promises that its current frame is stamped `start + frameDuration * frames`
(`OnTime`).  An advance keeps the promise because it changes all three counters or none, and a
restart that finds a start keeps it because it begins anew.  A restart that finds none has by then
cleared two of the counters, and the timestamp still shows the frame that was reached.

* `Move.onTime_iff` — the promise after one event, for each of the five things an event can do.
* `Interrupted`, `Uninterrupted` — the one event that breaks it, and the runs without that event.
* `onTime_run_iff` — a run keeps the promise at every step exactly when it is uninterrupted.

A broken promise does not last: the next advance that is accepted, even by no frames, and the next
restart that succeeds stamp the cadence anew from its counters.
-/

namespace FrameTiming.Cadence

open Session

/-- The current frame is stamped as the frames since the start say. -/
def OnTime (c : Cadence) : Prop :=
  c.now.toInt = c.start.toInt + c.frameDuration.toInt * c.frames.toNat

instance (c : Cadence) : Decidable c.OnTime := inferInstanceAs (Decidable (_ = _))

lemma onTime_atStart (d : Duration .tick) (origin : Origin) (start : Timestamp .tick) :
    (atStart d origin start).OnTime := by
  simp [OnTime, atStart]

lemma Counted.onTime_forward {c : Cadence} {n : UInt64} (h : c.Counted) (hn : c.Reaches n) :
    (c.forward n).OnTime := by
  rw [OnTime, h.toInt_now_forward hn]
  simp only [forward, h.toNat_frames_add hn]
  push_cast
  rfl

/-- After a restart that failed, frame zero is the current frame; it is stamped as such only when
the cadence had not moved. -/
lemma onTime_clear_iff {c : Cadence} : c.clear.OnTime ↔ c.now = c.start := by
  rw [← Timestamp.toInt_inj]
  simp [OnTime, clear]

/-- A cadence on time is at its start exactly when it has counted no frame. -/
lemma OnTime.now_eq_start_iff {c : Cadence} (hon : c.OnTime) (h : c.Counted) :
    c.now = c.start ↔ c.frames = 0 := by
  have hpos := h.frameDuration_pos.ne'
  rw [← Timestamp.toInt_inj, hon, add_eq_left, mul_eq_zero, or_iff_right hpos,
    Int.natCast_eq_zero, ← UInt64.toNat_inj, UInt64.toNat_zero]

/-- Clearing changes nothing only where nothing was counted. -/
lemma Counted.clear_eq_iff {c : Cadence} (h : c.Counted) : c.clear = c ↔ c.frames = 0 := by
  constructor
  · intro heq
    exact (congrArg Cadence.frames heq).symm
  · intro hframes
    have helapsed : c.elapsed = 0 := by
      rw [← Duration.toInt_inj, h.elapsed_eq, hframes]
      simp
    exact Cadence.ext rfl rfl rfl rfl helapsed.symm hframes.symm

namespace Session

variable {s next : Session} {e : Event} {answer : Answer}

/-! ## One event -/

/-- **Being on time after an event.**  An accepted advance and a restart that succeeds establish
it, a refusal and the clock leave it alone, and a restart that fails keeps it only at the start. -/
theorem Move.onTime_iff (hmove : Move s e answer next) (h : s.cadence.Counted) :
    next.cadence.OnTime ↔
      match e, answer with
      | .advance _, .stamped _ => True
      | .restart, .done => True
      | .restart, .failed _ => s.cadence.now = s.cadence.start
      | _, _ => s.cadence.OnTime := by
  cases hmove with
  | advanced hn => simp only [h.onTime_forward hn]
  | refused _ => rfl
  | restarted _ => simp only [onTime_atStart]
  | failed _ => exact onTime_clear_iff
  | clock _ => rfl

/-- A session that has counted frames meets a restart for which there is no start. -/
def Interrupted (s : Session) (e : Event) : Prop :=
  e = .restart ∧ s.cadence.origin.resolve s.clock = .error .outOfRange ∧ s.cadence.frames ≠ 0

/-- The only event that takes a session out of time is a restart that fails after frames have
been counted. -/
lemma onTime_step_iff (h : s.cadence.Counted) (hon : s.cadence.OnTime)
    (hstep : s.step e = .ok (answer, next)) : next.cadence.OnTime ↔ ¬ s.Interrupted e := by
  have hmove := (step_eq_ok_iff h).1 hstep
  rw [hmove.onTime_iff h]
  cases hmove with
  | advanced hn => simp [Interrupted]
  | refused _ => simp [Interrupted, hon]
  | restarted hres => simp [Interrupted, hres]
  | failed hres => simp [Interrupted, hres, hon.now_eq_start_iff h]
  | clock _ => simp [Interrupted, hon]

/-! ## Runs -/

/-- No restart of the run fails after frames have been counted. -/
def Uninterrupted (s : Session) : List Event → Prop
  | [] => True
  | e :: es => ¬ s.Interrupted e ∧
      ∀ answer next, s.step e = .ok (answer, next) → next.Uninterrupted es

lemma uninterrupted_cons_of_step (hstep : s.step e = .ok (answer, next)) (es : List Event) :
    s.Uninterrupted (e :: es) ↔ ¬ s.Interrupted e ∧ next.Uninterrupted es := by
  rw [Uninterrupted, hstep]
  constructor
  · rintro ⟨hclean, hlater⟩
    exact ⟨hclean, hlater answer next rfl⟩
  · rintro ⟨hclean, hlater⟩
    refine ⟨hclean, ?_⟩
    rintro _ _ ⟨⟩
    exact hlater

/-- **A run is on time throughout exactly when it is uninterrupted.** -/
theorem onTime_run_iff (h : s.cadence.Counted) (hon : s.cadence.OnTime) (es : List Event) :
    (∀ entry ∈ (s.run es).entries, entry.2.cadence.OnTime) ↔ s.Uninterrupted es := by
  induction es generalizing s with
  | nil => simp [run, Uninterrupted]
  | cons e es ih =>
      cases hstep : s.step e with
      | error fault =>
          -- the fault ends the run; it is not the failure that interrupts
          have hclean : ¬ s.Interrupted e := by
            rintro ⟨rfl, hres, -⟩
            rw [step_restart_outOfRange hres] at hstep
            cases hstep
          simp [run, Uninterrupted, hstep, hclean]
      | ok entry =>
          obtain ⟨answer, next⟩ := entry
          have hnext := onTime_step_iff h hon hstep
          have hcounted := ((step_eq_ok_iff h).1 hstep).counted h
          rw [uninterrupted_cons_of_step hstep]
          simp only [run, hstep, List.forall_mem_cons]
          constructor
          · rintro ⟨hnow, hlater⟩
            exact ⟨hnext.1 hnow, (ih hcounted hnow).1 hlater⟩
          · rintro ⟨hclean, hlater⟩
            have hnow := hnext.2 hclean
            exact ⟨hnow, (ih hcounted hnow).2 hlater⟩

/-- In every reachable session the cadence is on time or its counters are clear. -/
lemma Reachable.onTime_or {d : Duration .tick} {origin : Origin} (hs : Reachable d origin s) :
    s.cadence.OnTime ∨ s.cadence.frames = 0 := by
  induction hs with
  | create hc =>
      obtain ⟨-, start, -, rfl⟩ := create_eq_ok_iff.1 hc
      exact Or.inr rfl
  | step hprev hstep ih =>
      have h := hprev.counted.1
      cases (step_eq_ok_iff h).1 hstep with
      | advanced hn => exact Or.inl (h.onTime_forward hn)
      | refused _ => exact ih
      | restarted _ => exact Or.inr rfl
      | failed _ => exact Or.inr rfl
      | clock _ => exact ih

/-! ## The whole statement -/

/-- **When a cadence is on time.**  A run of a new cadence is on time at every step exactly when no
restart in it fails after frames have been counted.  Among all reachable sessions, those out of
time have clear counters and a timestamp that is not the start.  A restart that fails clears the
counters and moves neither start nor timestamp: it leaves a session as it was only where no frame
had been counted, and on time only where the timestamp was the start. -/
theorem onTime_iff_uninterrupted {d : Duration .tick} {origin : Origin} {clock : Reading}
    {c : Cadence} (hc : Cadence.create d origin clock = .ok c) :
    (∀ es, (∀ entry ∈ (Session.run ⟨clock, c⟩ es).entries, entry.2.cadence.OnTime) ↔
      Uninterrupted ⟨clock, c⟩ es) ∧
    (∀ s, Reachable d origin s →
      (s.cadence.OnTime ↔ (s.cadence.frames = 0 → s.cadence.now = s.cadence.start))) ∧
    ∀ s, Reachable d origin s → origin.resolve s.clock = .error .outOfRange →
      ∃ next, s.step .restart = .ok (.failed (.origin .outOfRange), next) ∧
        next.cadence.frames = 0 ∧ next.cadence.elapsed = 0 ∧
        next.cadence.start = s.cadence.start ∧ next.cadence.now = s.cadence.now ∧
        (next = s ↔ s.cadence.frames = 0) ∧
        (next.cadence.OnTime ↔ s.cadence.now = s.cadence.start) := by
  refine ⟨?_, ?_, ?_⟩
  · intro es
    obtain ⟨hd, start, -, rfl⟩ := create_eq_ok_iff.1 hc
    exact onTime_run_iff (counted_atStart hd origin start) (onTime_atStart d origin start) es
  · intro s hs
    constructor
    · intro hon hframes
      exact (hon.now_eq_start_iff hs.counted.1).2 hframes
    · intro himp
      rcases hs.onTime_or with hon | hframes
      · exact hon
      · rw [OnTime, himp hframes, hframes]
        simp
  · intro s hs hres
    obtain ⟨h, -, horigin⟩ := hs.counted
    rw [← horigin] at hres
    refine ⟨_, step_restart_outOfRange hres, rfl, rfl, rfl, rfl, ?_, onTime_clear_iff⟩
    rw [← h.clear_eq_iff]
    constructor
    · intro heq
      exact congrArg Session.cadence heq
    · intro heq
      simp only [heq]

/-- A cadence that starts 101 ticks before the last one, and a clock that moves on by a second. -/
theorem onTime_iff_uninterrupted_late_origin :
    Cadence.create ⟨1⟩ (.present ⟨9223372036854775706⟩) ⟨.second, 0⟩ =
      .ok (atStart ⟨1⟩ (.present ⟨9223372036854775706⟩) ⟨9223372036854775706⟩) ∧
    ¬ Uninterrupted
      ⟨⟨.second, 0⟩, atStart ⟨1⟩ (.present ⟨9223372036854775706⟩) ⟨9223372036854775706⟩⟩
      [.advance 1, .clock ⟨.second, 1⟩, .restart] := by
  have hc : Cadence.create ⟨1⟩ (.present ⟨9223372036854775706⟩) ⟨.second, 0⟩ =
      .ok (atStart ⟨1⟩ (.present ⟨9223372036854775706⟩) ⟨9223372036854775706⟩) := by decide
  refine ⟨hc, ?_⟩
  rw [← (onTime_iff_uninterrupted hc).1]
  decide

/-- **A restart that fails can leave a stamp that the counters do not give.**  The run above keeps
the stamp of frame one while its counters say frame zero. -/
theorem not_onTime_after_failed_restart :
    Cadence.create ⟨1⟩ (.present ⟨9223372036854775706⟩) ⟨.second, 0⟩ =
      .ok (atStart ⟨1⟩ (.present ⟨9223372036854775706⟩) ⟨9223372036854775706⟩) ∧
    ∃ entry ∈ (Session.run
        ⟨⟨.second, 0⟩, atStart ⟨1⟩ (.present ⟨9223372036854775706⟩) ⟨9223372036854775706⟩⟩
        [.advance 1, .clock ⟨.second, 1⟩, .restart]).entries,
      entry.1 = .failed (.origin .outOfRange) ∧ ¬ entry.2.cadence.OnTime := by
  decide

end Session

end FrameTiming.Cadence
