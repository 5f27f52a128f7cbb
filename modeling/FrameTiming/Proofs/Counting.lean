import FrameTiming.Cadence.Counter
import Mathlib.Algebra.Order.Ring.Int
import Mathlib.Tactic.Lemma
import Mathlib.Tactic.Linarith

/-!
# A cadence counts frames

The three counters of a cadence say the same thing, and the checks of a step are meant to keep it
so.  This module finds what they keep and draws the consequence: a session is its `Counter`.

**The invariant.**  `Counted` has the elapsed ticks equal to frame duration times frames and the
sum with the start inside its range.  The frames are not checked by any step; that they never wrap
(`Counted.frames_lt`) follows from the elapsed ticks being a word and a frame taking at least one
tick.

**The steps.**  `Counted.advance?_eq` replaces the four checks of an advance by two inequalities
on exact integers (`Reaches`).  `Move` lists what an event can do to a session, and
`step_eq_ok_iff` says that the list is complete; every fact about runs below, and in the modules
that follow, is a case analysis on `Move`.

**The refinement.**  `counted_run` runs a session and its counter side by side.
-/

namespace FrameTiming.Cadence

open Session

/-! ## The invariant -/

/-- The counters of a cadence agree, and the current frame is due inside the range of ticks. -/
structure Counted (c : Cadence) : Prop where
  frameDuration_pos : 0 < c.frameDuration.toInt
  elapsed_eq : c.elapsed.toInt = c.frameDuration.toInt * c.frames.toNat
  due_lt : c.start.toInt + c.elapsed.toInt < 2 ^ 63

/-- Whether a cadence can move on by `n` frames, over exact integers. -/
def Reaches (c : Cadence) (n : UInt64) : Prop :=
  c.frameDuration.toInt * (c.frames.toNat + n.toNat) ≤ 2 ^ 63 - 1 ∧
    c.start.toInt + c.frameDuration.toInt * (c.frames.toNat + n.toNat) ≤ 2 ^ 63 - 1

instance (c : Cadence) (n : UInt64) : Decidable (c.Reaches n) :=
  inferInstanceAs (Decidable (_ ∧ _))

/-- The cadence `n` frames later, computed at once. -/
def forward (c : Cadence) (n : UInt64) : Cadence :=
  { c with
    now := ⟨Int64.ofInt
      (c.start.toInt + c.frameDuration.toInt * (c.frames.toNat + n.toNat))⟩
    elapsed := ⟨Int64.ofInt (c.frameDuration.toInt * (c.frames.toNat + n.toNat))⟩
    frames := c.frames + n }

/-- A number of frames below `2^63` is the same number as a signed word. -/
lemma toInt_toInt64 {n : UInt64} (h : n.toNat < 2 ^ 63) : n.toInt64.toInt = n.toNat := by
  have hword := Int64.toInt_ofNat_of_lt h
  rwa [← UInt64.toInt64_ofNat', UInt64.ofNat_toNat] at hword

/-- Frames of at least one tick are no more than their ticks. -/
lemma natCast_le_mul {d : ℤ} (hd : 0 < d) (n : ℕ) : (n : ℤ) ≤ d * n :=
  le_mul_of_one_le_left (Int.natCast_nonneg n) hd

lemma Counted.frames_lt {c : Cadence} (h : c.Counted) : c.frames.toNat < 2 ^ 63 := by
  have hle := natCast_le_mul h.frameDuration_pos c.frames.toNat
  have hlt : c.elapsed.toInt < 2 ^ 63 := c.elapsed.count.toInt_lt
  rw [h.elapsed_eq] at hlt
  omega

lemma counted_atStart {d : Duration .tick} (hd : 0 < d.toInt) (origin : Origin)
    (start : Timestamp .tick) : (atStart d origin start).Counted := by
  refine ⟨hd, ?_, ?_⟩
  · simp [atStart]
  · have hlt : start.toInt < 2 ^ 63 := start.count.toInt_lt
    simpa [atStart] using hlt

lemma Counted.clear {c : Cadence} (h : c.Counted) : c.clear.Counted := by
  obtain ⟨hpos, helapsed, hdue⟩ := counted_atStart h.frameDuration_pos c.origin c.start
  exact ⟨hpos, helapsed, hdue⟩

/-! ## Moving on -/

/-- What the checks of an advance establish, and what it then does. -/
lemma advance?_eq_some_iff {c next : Cadence} {n : UInt64} :
    c.advance? n = some next ↔
      n.toNat < 2 ^ 63 ∧ Fits (c.frameDuration.toInt * n.toNat) ∧
      ∃ elapsed now,
        elapsed.toInt = c.elapsed.toInt + c.frameDuration.toInt * n.toNat ∧
        now.toInt = c.start.toInt + elapsed.toInt ∧
        next = { c with now, elapsed, frames := c.frames + n } := by
  by_cases hn : n.toNat < 2 ^ 63
  · rw [advance?, if_neg (by omega)]
    simp only [hn, true_and, Option.bind_eq_bind, Option.bind_eq_some_iff, Option.pure_def,
      Option.some.injEq, Duration.mul?_eq_some_iff, Duration.add?_eq_some_iff,
      Timestamp.add?_eq_some_iff, toInt_toInt64 hn]
    constructor
    · rintro ⟨delta, hdelta, elapsed, helapsed, now, hnow, rfl⟩
      refine ⟨?_, elapsed, now, ?_, hnow, rfl⟩
      · rw [← hdelta]
        exact delta.fits
      · rw [helapsed, hdelta]
    · rintro ⟨hfits, elapsed, now, helapsed, hnow, rfl⟩
      refine ⟨⟨Int64.ofInt (c.frameDuration.toInt * n.toNat)⟩, Word.toInt_ofInt hfits,
        elapsed, ?_, now, hnow, rfl⟩
      rw [helapsed]
      exact congrArg _ (Word.toInt_ofInt hfits).symm
  · rw [advance?, if_pos (by omega)]
    constructor
    · rintro ⟨⟩
    · rintro ⟨hlt, -⟩
      exact absurd hlt hn

namespace Counted

variable {c : Cadence} {n : UInt64}

/-- No frame number in range wraps. -/
lemma toNat_frames_add (h : c.Counted) (hn : c.Reaches n) :
    (c.frames + n).toNat = c.frames.toNat + n.toNat := by
  have hle := natCast_le_mul h.frameDuration_pos (c.frames.toNat + n.toNat)
  have hmax := hn.1
  push_cast at hle
  rw [UInt64.toNat_add, Nat.mod_eq_of_lt (by omega)]

lemma toInt_elapsed_forward (h : c.Counted) (hn : c.Reaches n) :
    (c.forward n).elapsed.toInt = c.frameDuration.toInt * (c.frames.toNat + n.toNat) := by
  have hle := natCast_le_mul h.frameDuration_pos (c.frames.toNat + n.toNat)
  have hmax := hn.1
  push_cast at hle
  exact Word.toInt_ofInt ⟨by omega, by omega⟩

lemma toInt_now_forward (h : c.Counted) (hn : c.Reaches n) :
    (c.forward n).now.toInt =
      c.start.toInt + c.frameDuration.toInt * (c.frames.toNat + n.toNat) := by
  have hle := natCast_le_mul h.frameDuration_pos (c.frames.toNat + n.toNat)
  have hmin : -2 ^ 63 ≤ c.start.toInt := c.start.count.le_toInt
  have hmax := hn.2
  push_cast at hle
  exact Word.toInt_ofInt ⟨by omega, by omega⟩

protected lemma forward (h : c.Counted) (hn : c.Reaches n) : (c.forward n).Counted := by
  refine ⟨h.frameDuration_pos, ?_, ?_⟩
  · rw [h.toInt_elapsed_forward hn]
    simp only [forward, h.toNat_frames_add hn]
    push_cast
    rfl
  · rw [h.toInt_elapsed_forward hn]
    have hmax := hn.2
    simp only [forward]
    omega

/-- **An advance checks two inequalities.**  The argument, the product and the sum are examined
apart, but none of them can fail unless the elapsed ticks or the due tick would. -/
lemma advance?_eq (h : c.Counted) (n : UInt64) :
    c.advance? n = if c.Reaches n then some (c.forward n) else none := by
  have hsum : c.elapsed.toInt + c.frameDuration.toInt * n.toNat =
      c.frameDuration.toInt * (c.frames.toNat + n.toNat) := by
    rw [h.elapsed_eq, mul_add]
  split_ifs with hn
  · have hframes := natCast_le_mul h.frameDuration_pos c.frames.toNat
    have hframe := natCast_le_mul h.frameDuration_pos n.toNat
    have hmax := hn.1
    rw [mul_add] at hmax
    refine advance?_eq_some_iff.2 ⟨by omega, ⟨by omega, by omega⟩, (c.forward n).elapsed,
      (c.forward n).now, ?_, ?_, rfl⟩
    · rw [h.toInt_elapsed_forward hn, hsum]
    · rw [h.toInt_now_forward hn, h.toInt_elapsed_forward hn]
  · rw [Option.eq_none_iff_forall_ne_some]
    intro next hnext
    obtain ⟨-, -, elapsed, now, helapsed, hnow, -⟩ := advance?_eq_some_iff.1 hnext
    have hemax : elapsed.toInt < 2 ^ 63 := elapsed.count.toInt_lt
    have hnmax : now.toInt < 2 ^ 63 := now.count.toInt_lt
    rw [hnow] at hnmax
    rw [helapsed, hsum] at hemax hnmax
    exact hn ⟨by omega, by omega⟩

end Counted

/-! ## What an event does

A session changes in one of five ways.  The list is used wherever something is shown of every
reachable session.
-/

namespace Session

/-- What an event can do to a session, with the answer it gives. -/
inductive Move (s : Session) : Event → Answer → Session → Prop where
  | advanced {n : UInt64} : s.cadence.Reaches n →
      Move s (.advance n) (.stamped (s.cadence.forward n).now)
        { s with cadence := s.cadence.forward n }
  | refused {n : UInt64} : ¬ s.cadence.Reaches n → Move s (.advance n) .refused s
  | restarted {start : Timestamp .tick} : s.cadence.origin.resolve s.clock = .ok start →
      Move s .restart .done
        { s with cadence := atStart s.cadence.frameDuration s.cadence.origin start }
  | failed : s.cadence.origin.resolve s.clock = .error .outOfRange →
      Move s .restart (.failed (.origin .outOfRange)) { s with cadence := s.cadence.clear }
  | clock (reading : Reading) : Move s (.clock reading) .done { s with clock := reading }

variable {s next : Session} {e : Event} {answer : Answer}

lemma step_advance (h : s.cadence.Counted) (n : UInt64) :
    s.step (.advance n) =
      if s.cadence.Reaches n then
        .ok (.stamped (s.cadence.forward n).now, { s with cadence := s.cadence.forward n })
      else .ok (.refused, s) := by
  rw [step, h.advance?_eq n]
  split_ifs with hn <;> rfl

lemma step_restart_ok {start : Timestamp .tick}
    (h : s.cadence.origin.resolve s.clock = .ok start) :
    s.step .restart =
      .ok (.done, { s with cadence := atStart s.cadence.frameDuration s.cadence.origin start }) := by
  rw [step, restart_of_resolve_eq_ok h]

lemma step_restart_outOfRange (h : s.cadence.origin.resolve s.clock = .error .outOfRange) :
    s.step .restart =
      .ok (.failed (.origin .outOfRange), { s with cadence := s.cadence.clear }) := by
  rw [step, restart, h]

lemma step_restart_fault {fault : Reading.Fault}
    (h : s.cadence.origin.resolve s.clock = .error (.clock fault)) :
    s.step .restart = .error fault := by
  rw [step, restart, h]

/-- **The five ways are all.** -/
theorem step_eq_ok_iff (h : s.cadence.Counted) :
    s.step e = .ok (answer, next) ↔ Move s e answer next := by
  constructor
  · intro hstep
    cases e with
    | advance n =>
        rw [step_advance h] at hstep
        split_ifs at hstep with hn <;> cases hstep
        · exact .advanced hn
        · exact .refused hn
    | restart =>
        rcases hres : s.cadence.origin.resolve s.clock with (fault | _) | start
        · rw [step_restart_fault hres] at hstep
          cases hstep
        · rw [step_restart_outOfRange hres] at hstep
          cases hstep
          exact .failed hres
        · rw [step_restart_ok hres] at hstep
          cases hstep
          exact .restarted hres
    | clock reading =>
        cases hstep
        exact .clock reading
  · rintro (hn | hn | hres | hres | reading)
    · rw [step_advance h, if_pos hn]
    · rw [step_advance h, if_neg hn]
    · exact step_restart_ok hres
    · exact step_restart_outOfRange hres
    · rfl

/-! ## Every reachable session counts -/

lemma Move.counted (hmove : Move s e answer next) (h : s.cadence.Counted) :
    next.cadence.Counted := by
  cases hmove with
  | advanced hn => exact h.forward hn
  | refused _ => exact h
  | restarted _ => exact counted_atStart h.frameDuration_pos _ _
  | failed _ => exact h.clear
  | clock _ => exact h

/-- No event changes what a cadence was made of. -/
lemma Move.frameDuration_origin (hmove : Move s e answer next) :
    next.cadence.frameDuration = s.cadence.frameDuration ∧
      next.cadence.origin = s.cadence.origin := by
  cases hmove <;> exact ⟨rfl, rfl⟩

/-- A cadence is made from a frame duration that is positive and an origin that resolves. -/
lemma create_eq_ok_iff {d : Duration .tick} {origin : Origin} {clock : Reading} {c : Cadence} :
    Cadence.create d origin clock = .ok c ↔
      0 < d.toInt ∧ ∃ start, origin.resolve clock = .ok start ∧ c = atStart d origin start := by
  by_cases hd : d ≤ 0
  · have hpos : ¬ 0 < d.toInt := by
      rw [Duration.le_iff_toInt_le, Duration.toInt_zero] at hd
      omega
    rw [create, if_pos hd]
    simp [hpos]
  · have hpos : 0 < d.toInt := by
      rw [Duration.le_iff_toInt_le, Duration.toInt_zero] at hd
      omega
    rw [create, if_neg hd]
    cases hres : origin.resolve clock with
    | error cause => simp
    | ok start => simp [hpos, eq_comm]

/-- The invariant of reachable sessions. -/
theorem Reachable.counted {d : Duration .tick} {origin : Origin} (h : Reachable d origin s) :
    s.cadence.Counted ∧ s.cadence.frameDuration = d ∧ s.cadence.origin = origin := by
  induction h with
  | create hc =>
      obtain ⟨hd, start, -, rfl⟩ := create_eq_ok_iff.1 hc
      exact ⟨counted_atStart hd origin start, rfl, rfl⟩
  | step _ hstep ih =>
      obtain ⟨hcounted, hd, horigin⟩ := ih
      have hmove := (step_eq_ok_iff hcounted).1 hstep
      obtain ⟨hd', horigin'⟩ := hmove.frameDuration_origin
      exact ⟨hmove.counted hcounted, hd'.trans hd, horigin'.trans horigin⟩

/-! ## A session and its counter -/

/-- A counter reaches what the cadence reaches. -/
lemma inRange_ahead_iff (n : UInt64) :
    (s.counter.ahead n.toNat).InRange ↔ s.cadence.Reaches n := by
  simp only [Counter.InRange, Counter.due, Counter.elapsed, Counter.ahead, counter, Reaches]
  push_cast
  rfl

lemma counter_forward {n : UInt64} (h : s.cadence.Counted) (hn : s.cadence.Reaches n) :
    ({ s with cadence := s.cadence.forward n } : Session).counter = s.counter.ahead n.toNat := by
  simp only [counter, Counter.ahead, h.toNat_frames_add hn, forward]

/-- **One event does to the counter what it does to the session**, faults included. -/
theorem counted_step (h : s.cadence.Counted) (e : Event) :
    s.counter.step e = (s.step e).map fun entry => (entry.1.counted, entry.2.counter) := by
  cases e with
  | advance n =>
      rw [step_advance h, Counter.step]
      by_cases hn : s.cadence.Reaches n
      · have hnow : (s.cadence.forward n).now.toInt = (s.counter.ahead n.toNat).due := by
          rw [h.toInt_now_forward hn]
          simp only [Counter.due, Counter.elapsed, Counter.ahead, counter]
          push_cast
          rfl
        rw [if_pos hn, if_pos ((inRange_ahead_iff n).2 hn)]
        simp only [Except.map, Answer.counted, hnow, counter_forward h hn]
      · rw [if_neg hn, if_neg fun hin => hn ((inRange_ahead_iff n).1 hin)]
        rfl
  | restart =>
      have horigin : s.counter.origin.resolve s.counter.clock =
          s.cadence.origin.resolve s.clock := rfl
      rcases hres : s.cadence.origin.resolve s.clock with (fault | _) | start
      · rw [step_restart_fault hres, Counter.step, horigin, hres]
        rfl
      · rw [step_restart_outOfRange hres, Counter.step, horigin, hres]
        rfl
      · rw [step_restart_ok hres, Counter.step, horigin, hres]
        rfl
  | clock reading => rfl

/-- **A run of a session is the run of its counter.** -/
theorem counted_run (h : s.cadence.Counted) (es : List Event) :
    (s.run es).counted = s.counter.run es := by
  induction es generalizing s with
  | nil => rfl
  | cons e es ih =>
      have hcounter := counted_step h e
      cases hstep : s.step e with
      | error fault =>
          rw [hstep] at hcounter
          simp only [run, Counter.run, hstep, hcounter, Except.map, Transcript.counted,
            List.map_nil]
      | ok entry =>
          obtain ⟨answer, next⟩ := entry
          have hnext := ih (((step_eq_ok_iff h).1 hstep).counted h)
          rw [hstep] at hcounter
          simp only [run, Counter.run, hstep, hcounter, Except.map, ← hnext,
            Transcript.counted, List.map_cons]

/-- **A cadence is a counter of frames.**  It is created from every positive frame duration and
every origin that resolves.  In every session it can get into, whatever was refused or failed on
the way, the elapsed ticks are frame duration times frames, the frames have not wrapped and the
current frame is due inside the range of ticks.  An advance succeeds exactly when neither the new
elapsed ticks nor the new due tick exceeds the range; it is then stamped with the due tick and
adds its frames, and otherwise nothing changes.  Every run from there answers as the counter
does. -/
theorem session_refines_counter {d : Duration .tick} {origin : Origin} {clock : Reading}
    {start : Timestamp .tick} (hd : 0 < d.toInt) (hstart : origin.resolve clock = .ok start) :
    Cadence.create d origin clock = .ok (atStart d origin start) ∧
    ∀ s, Reachable d origin s →
      (s.cadence.frameDuration = d ∧
        s.cadence.elapsed.toInt = d.toInt * s.cadence.frames.toNat ∧
        s.cadence.frames.toNat ≤ 2 ^ 63 - 1 ∧
        s.cadence.start.toInt + s.cadence.elapsed.toInt ≤ 2 ^ 63 - 1) ∧
      (∀ n : UInt64,
        (d.toInt * (s.cadence.frames.toNat + n.toNat) ≤ 2 ^ 63 - 1 ∧
            s.cadence.start.toInt + d.toInt * (s.cadence.frames.toNat + n.toNat) ≤ 2 ^ 63 - 1 →
          ∃ c, s.step (.advance n) = .ok (.stamped c.now, { s with cadence := c }) ∧
            c.now.toInt =
              s.cadence.start.toInt + d.toInt * (s.cadence.frames.toNat + n.toNat) ∧
            c.frames.toNat = s.cadence.frames.toNat + n.toNat ∧
            c.start = s.cadence.start) ∧
        (¬ (d.toInt * (s.cadence.frames.toNat + n.toNat) ≤ 2 ^ 63 - 1 ∧
            s.cadence.start.toInt + d.toInt * (s.cadence.frames.toNat + n.toNat) ≤ 2 ^ 63 - 1) →
          s.step (.advance n) = .ok (.refused, s))) ∧
      ∀ es, (s.run es).counted = s.counter.run es := by
  refine ⟨create_eq_ok_iff.2 ⟨hd, start, hstart, rfl⟩, ?_⟩
  intro s hs
  obtain ⟨h, rfl, -⟩ := hs.counted
  refine ⟨⟨rfl, h.elapsed_eq, ?_, ?_⟩, ?_, counted_run h⟩
  · have hlt := h.frames_lt
    omega
  · have hlt := h.due_lt
    omega
  · intro n
    rw [step_advance h]
    constructor
    · intro hn
      exact ⟨s.cadence.forward n, if_pos hn, h.toInt_now_forward hn, h.toNat_frames_add hn, rfl⟩
    · intro hn
      exact if_neg hn

/-- NTSC frames from the first whole second after a clock that shows 6.5 s: the cadence starts at
tick 630 000, and 107 892 frames later it is stamped 323 999 676 ticks on. -/
theorem session_refines_counter_ntsc :
    0 < (⟨3003⟩ : Duration .tick).toInt ∧
    (Origin.nextSecond 0).resolve ⟨.millisecond, 6500⟩ = .ok ⟨630000⟩ ∧
    ∃ c, step ⟨⟨.millisecond, 6500⟩, atStart ⟨3003⟩ (.nextSecond 0) ⟨630000⟩⟩ (.advance 107892) =
        .ok (.stamped c.now, ⟨⟨.millisecond, 6500⟩, c⟩) ∧
      c.now.toInt = 324629676 ∧ c.frames.toNat = 107892 := by
  have hd : 0 < (⟨3003⟩ : Duration .tick).toInt := by decide
  have hstart : (Origin.nextSecond 0).resolve ⟨.millisecond, 6500⟩ = .ok ⟨630000⟩ := by decide
  obtain ⟨hcreate, hreach⟩ := session_refines_counter hd hstart
  obtain ⟨c, hstep, hnow, hframes, -⟩ := ((hreach _ (.create hcreate)).2.1 107892).1 (by decide)
  exact ⟨hd, hstart, c, hstep, hnow, hframes⟩

end Session

end FrameTiming.Cadence
