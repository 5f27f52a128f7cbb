import FrameTiming.Proofs.Counting
import FrameTiming.Proofs.Placement

/-!
# A later clock makes a later recording

Two sessions are used in the same way, and every clock that the second one sees is `k` seconds
ahead of the clock that the first one sees.  This module follows the two side by side: what is
`k` seconds later at the clock is `90000 * k` ticks later in every timestamp, and nothing else
differs.

* `Later k` — `k` seconds later, for timestamps and readings, and from them for cadences, sessions
  and answers.
* `Rate.exact_add_mul` — truncation takes whole seconds as they are.  It is used twice, from the
  clock to nanoseconds and from there to ticks.
* `Origin.resolve_later`, `step_later`, `run_later` — an origin, an event and a run.
* `step_alike`, `run_alike` — for an origin that does not look at the clock the two sessions agree,
  whatever their clocks show.

**Only the later session has to succeed.**  It is nearer to the end of the range at every step, and
no start that is resolved from a clock lies before the range.
-/

namespace FrameTiming

namespace Rate

/-- **A conversion takes whole seconds as they are.** -/
lemma exact_add_mul {v src dst k : ℤ} (hv : 0 ≤ v) (hsrc : 0 < src) (hdst : 0 ≤ dst)
    (hk : 0 ≤ k) : exact (v + k * src) src dst = exact v src dst + k * dst := by
  have hprod : 0 ≤ v * dst := Int.mul_nonneg hv hdst
  have hsum : (v + k * src) * dst = v * dst + k * dst * src := by ring
  have hseconds : 0 ≤ k * dst * src := Int.mul_nonneg (Int.mul_nonneg hk hdst) hsrc.le
  rw [exact, exact, hsum, Int.tdiv_eq_ediv_of_nonneg (Int.add_nonneg hprod hseconds),
    Int.tdiv_eq_ediv_of_nonneg hprod, Int.add_mul_ediv_right _ _ hsrc.ne']

end Rate

/-! ## Clocks -/

/-- A timestamp `k` seconds after another one. -/
def Timestamp.Later (k : ℕ) (t later : Timestamp .tick) : Prop :=
  later.toInt = t.toInt + 90000 * k

namespace Reading

/-- A clock and the same clock `k` seconds later, neither of them broken.  Where a second is a
number of units, its count has grown by `k` times that number; hours and minutes can be compared
too, when they differ by whole units. -/
structure Later (k : ℕ) (r later : Reading) : Prop where
  resolution_eq : later.resolution = r.resolution
  count_eq : later.count.toInt * r.resolution.secondsPerUnit.toInt =
    r.count.toInt * r.resolution.secondsPerUnit.toInt + k * r.resolution.unitsPerSecond.toInt
  sound : r.Sound
  later_sound : later.Sound

variable {k : ℕ} {r later : Reading}

lemma Later.exactNanos_eq (h : r.Later k later) :
    later.exactNanos = r.exactNanos + k * 1000000000 := by
  have hseconds := Int.mul_nonneg h.sound.nonneg r.resolution.secondsPerUnit_pos.le
  rw [exactNanos, h.resolution_eq, h.count_eq,
    Rate.exact_add_mul hseconds r.resolution.unitsPerSecond_pos (by decide) (Int.natCast_nonneg k)]
  rfl

/-- The ticks of the later clock are later by the ticks in `k` seconds. -/
lemma Later.exists_ticks_eq_ok (h : r.Later k later) :
    ∃ now soon, r.ticks = .ok now ∧ later.ticks = .ok soon ∧ 0 ≤ now.toInt ∧ now.Later k soon := by
  have hnanos := exactNanos_nonneg h.sound.nonneg
  obtain ⟨now, hnow, hnowInt⟩ := h.sound.exists_ticks_eq_ok
  obtain ⟨soon, hsoon, hsoonInt⟩ := h.later_sound.exists_ticks_eq_ok
  refine ⟨now, soon, hnow, hsoon, ?_, ?_⟩
  · rw [hnowInt]
    exact (Rate.exact_bounds hnanos (by decide) (by decide)).1
  · rw [Timestamp.Later, hsoonInt, hnowInt, h.exactNanos_eq,
      Rate.exact_add_mul hnanos (by decide) (by decide) (Int.natCast_nonneg k), mul_comm 90000]

end Reading

/-! ## Origins -/

namespace Origin

variable {k : ℕ} {origin : Origin}

/-- The base moves with the clock. -/
lemma base_add (hreads : origin.readsClock = true) (now : ℤ) :
    origin.base (now + 90000 * k) = origin.base now + 90000 * k := by
  cases origin with
  | present _ => rfl
  | nextSecond _ => exact Timestamp.ceilSecond_add now k
  | fixed _ => cases hreads
  | epoch => cases hreads

/-- The base is not before the clock. -/
lemma le_base (hreads : origin.readsClock = true) (now : ℤ) : now ≤ origin.base now := by
  cases origin with
  | present _ => exact le_rfl
  | nextSecond _ => exact Timestamp.le_ceilSecond now
  | fixed _ => cases hreads
  | epoch => cases hreads

/-- **A start that exists at the later clock exists at the earlier one**, and is earlier by as
much. -/
lemma resolve_later {clock laterClock : Reading} {laterStart : Timestamp .tick}
    (hreads : origin.readsClock = true) (h : clock.Later k laterClock)
    (hres : origin.resolve laterClock = .ok laterStart) :
    ∃ start, origin.resolve clock = .ok start ∧ start.Later k laterStart := by
  obtain ⟨now, soon, hnow, hsoon, hnonneg, hlater⟩ := h.exists_ticks_eq_ok
  obtain ⟨hbase, hstart⟩ := (resolve_eq_ok_iff hreads hsoon).1 hres
  have hle := le_base hreads now.toInt
  have hoffset := origin.offset.fits
  have hfits := laterStart.fits
  rw [hlater, base_add hreads] at hbase hstart
  rw [hstart] at hfits
  obtain ⟨start, hstartInt⟩ : ∃ start : Timestamp .tick,
      start.toInt = origin.base now.toInt + origin.offset.toInt :=
    Timestamp.exists_toInt_eq (by unfold Fits at *; omega)
  refine ⟨start, (resolve_eq_ok_iff hreads hnow).2 ⟨?_, hstartInt⟩, ?_⟩
  · unfold Fits at *
    omega
  · rw [Timestamp.Later, hstart, hstartInt]
    omega

end Origin

/-! ## Cadences -/

namespace Cadence

open Session

/-- A cadence and the same cadence `k` seconds later: its timestamps are later, its counters
agree. -/
structure Later (k : ℕ) (c later : Cadence) : Prop where
  frameDuration_eq : later.frameDuration = c.frameDuration
  origin_eq : later.origin = c.origin
  start : c.start.Later k later.start
  now : c.now.Later k later.now
  elapsed_eq : later.elapsed = c.elapsed
  frames_eq : later.frames = c.frames

variable {k : ℕ} {c later : Cadence}

lemma later_atStart (d : Duration .tick) (origin : Origin) {start laterStart : Timestamp .tick}
    (h : start.Later k laterStart) : (atStart d origin start).Later k (atStart d origin laterStart) :=
  ⟨rfl, rfl, h, h, rfl, rfl⟩

/-- The earlier cadence reaches what the later one reaches. -/
lemma Later.reaches (h : c.Later k later) {n : UInt64} (hn : later.Reaches n) : c.Reaches n := by
  have hstart := h.start
  rw [Timestamp.Later] at hstart
  rw [Reaches, h.frameDuration_eq, h.frames_eq] at hn
  unfold Reaches
  omega

lemma Later.forward (h : c.Later k later) (hc : c.Counted) (hlater : later.Counted) {n : UInt64}
    (hn : later.Reaches n) : (c.forward n).Later k (later.forward n) := by
  have hstart := h.start
  have hnow : (c.forward n).now.Later k (later.forward n).now := by
    rw [Timestamp.Later, hc.toInt_now_forward (h.reaches hn), hlater.toInt_now_forward hn,
      h.frameDuration_eq, h.frames_eq, hstart]
    omega
  refine ⟨h.frameDuration_eq, h.origin_eq, hstart, hnow, ?_, ?_⟩
  · simp only [Cadence.forward, h.frameDuration_eq, h.frames_eq]
  · simp only [Cadence.forward, h.frames_eq]

/-! ## Sessions -/

namespace Session

/-- A session and the same session `k` seconds later. -/
structure Later (k : ℕ) (s later : Session) : Prop where
  clock : s.clock.Later k later.clock
  cadence : s.cadence.Later k later.cadence

/-- Two answers that say the same, one of them `k` seconds later. -/
inductive Answer.Later (k : ℕ) : Answer → Answer → Prop where
  | stamped {time later : Timestamp .tick} :
      time.Later k later → Answer.Later k (.stamped time) (.stamped later)
  | done : Answer.Later k .done .done

/-- The same event in two sessions, whose clocks are set to readings related by `R`. -/
inductive Event.Alike (R : Reading → Reading → Prop) : Event → Event → Prop where
  | advance (n : UInt64) : Event.Alike R (.advance n) (.advance n)
  | restart : Event.Alike R .restart .restart
  | clock {reading other : Reading} :
      R reading other → Event.Alike R (.clock reading) (.clock other)

lemma Answer.Later.succeeds {answer later : Answer} (h : answer.Later k later) :
    answer.Succeeds := by
  cases h <;> trivial

variable {s s' next' : Session} {e e' : Event} {answer' : Answer}

/-- **One event.**  Where it succeeds in the later session it succeeds in the earlier one, and the
sessions stay `k` seconds apart. -/
theorem step_later (hreads : s.cadence.origin.readsClock = true) (hc : s.cadence.Counted)
    (hc' : s'.cadence.Counted) (h : s.Later k s') (he : e.Alike (Reading.Later k) e')
    (hstep : s'.step e' = .ok (answer', next')) (hsucceeds : answer'.Succeeds) :
    ∃ answer next, s.step e = .ok (answer, next) ∧ answer.Later k answer' ∧ next.Later k next' := by
  cases (step_eq_ok_iff hc').1 hstep with
  | advanced hn =>
      cases he
      have hforward := h.cadence.forward hc hc' hn
      exact ⟨_, _, (step_eq_ok_iff hc).2 (.advanced (h.cadence.reaches hn)),
        .stamped hforward.now, h.clock, hforward⟩
  | refused _ => exact absurd hsucceeds id
  | restarted hres =>
      cases he
      rw [h.cadence.origin_eq] at hres
      obtain ⟨start, hstart, hlater⟩ := Origin.resolve_later hreads h.clock hres
      refine ⟨_, _, (step_eq_ok_iff hc).2 (.restarted hstart), .done, h.clock, ?_⟩
      rw [h.cadence.frameDuration_eq, h.cadence.origin_eq]
      exact later_atStart _ _ hlater
  | failed _ => exact absurd hsucceeds id
  | clock reading =>
      cases he with
      | clock hset => exact ⟨_, _, (step_eq_ok_iff hc).2 (.clock _), .done, hset, h.cadence⟩

/-- **A run.**  The earlier session goes through whatever the later one does. -/
theorem run_later (hreads : s.cadence.origin.readsClock = true) (hc : s.cadence.Counted)
    (hc' : s'.cadence.Counted) (h : s.Later k s') {es es' : List Event}
    (hes : List.Forall₂ (Event.Alike (Reading.Later k)) es es') (hrun : (s'.run es').Succeeds) :
    (s.run es).Succeeds ∧
      List.Forall₂ (fun entry later => entry.1.Later k later.1 ∧ entry.2.Later k later.2)
        (s.run es).entries (s'.run es').entries := by
  induction hes generalizing s s' with
  | nil => exact ⟨⟨rfl, by simp [run]⟩, .nil⟩
  | @cons e e' es es' he _ ih =>
      cases hstep' : s'.step e' with
      | error fault =>
          rw [run_cons_of_fault hstep'] at hrun
          cases hrun.1
      | ok entry' =>
          obtain ⟨answer', next'⟩ := entry'
          rw [run_cons_of_step hstep'] at hrun ⊢
          obtain ⟨hfault, hentries⟩ := hrun
          obtain ⟨hsucceeds, hrest⟩ := List.forall_mem_cons.1 hentries
          obtain ⟨answer, next, hstep, hanswer, hnext⟩ :=
            step_later hreads hc hc' h he hstep' hsucceeds
          have hmove := (step_eq_ok_iff hc).1 hstep
          have hreads' : next.cadence.origin.readsClock = true :=
            hmove.frameDuration_origin.2 ▸ hreads
          obtain ⟨⟨hfault', hentries'⟩, hlater⟩ :=
            ih hreads' (hmove.counted hc) (((step_eq_ok_iff hc').1 hstep').counted hc') hnext
              ⟨hfault, hrest⟩
          rw [run_cons_of_step hstep]
          exact ⟨⟨hfault', List.forall_mem_cons.2 ⟨hanswer.succeeds, hentries'⟩⟩,
            .cons ⟨hanswer, hnext⟩ hlater⟩

/-! ## Sessions that do not look at the clock -/

/-- What is seen of a session apart from the clock. -/
def Transcript.cadences (t : Transcript) : List (Answer × Cadence) :=
  t.entries.map fun entry => (entry.1, entry.2.cadence)

variable {c : Cadence}

/-- One event: whatever the clocks show, it is answered and leads to the same cadence. -/
lemma step_alike (clock clock' : Reading) (hreads : c.origin.readsClock = false)
    (hc : c.Counted) (he : e.Alike (fun _ _ => True) e') :
    ∃ answer next after after', Session.step ⟨clock, c⟩ e = .ok (answer, ⟨after, next⟩) ∧
      Session.step ⟨clock', c⟩ e' = .ok (answer, ⟨after', next⟩) := by
  cases he with
  | advance n =>
      by_cases hn : c.Reaches n
      · exact ⟨_, _, _, _, (step_eq_ok_iff hc).2 (.advanced hn),
          (step_eq_ok_iff hc).2 (.advanced hn)⟩
      · exact ⟨_, _, _, _, (step_eq_ok_iff hc).2 (.refused hn),
          (step_eq_ok_iff hc).2 (.refused hn)⟩
  | restart =>
      obtain ⟨start, hstart⟩ := Origin.exists_resolve_eq_ok hreads
      exact ⟨_, _, _, _, step_restart_ok (hstart clock), step_restart_ok (hstart clock')⟩
  | clock _ => exact ⟨_, _, _, _, rfl, rfl⟩

/-- A run: no clock ends it, and no clock shows in it. -/
lemma run_alike (clock clock' : Reading) (hreads : c.origin.readsClock = false)
    (hc : c.Counted) {es es' : List Event}
    (hes : List.Forall₂ (Event.Alike fun _ _ => True) es es') :
    (Session.run ⟨clock, c⟩ es).fault = none ∧ (Session.run ⟨clock', c⟩ es').fault = none ∧
      (Session.run ⟨clock, c⟩ es).cadences = (Session.run ⟨clock', c⟩ es').cadences := by
  induction hes generalizing c clock clock' with
  | nil => exact ⟨rfl, rfl, rfl⟩
  | cons he _ ih =>
      obtain ⟨answer, next, after, after', hstep, hstep'⟩ :=
        step_alike clock clock' hreads hc he
      have hmove := (step_eq_ok_iff hc).1 hstep
      have hreads' : next.origin.readsClock = false := hmove.frameDuration_origin.2 ▸ hreads
      obtain ⟨hfault, hfault', hcadences⟩ :=
        ih after after' hreads' (hmove.counted hc)
      rw [run_cons_of_step hstep, run_cons_of_step hstep']
      exact ⟨hfault, hfault', congrArg ((answer, next) :: ·) hcadences⟩

/-! ## The whole statement -/

/-- **Shifting the clock shifts the recording.**  Take two uses of a cadence whose origin looks at
the clock, alike but for clocks that are `k` seconds later throughout in the second.  If everything
succeeds in the later one, creation included, then it does in the earlier one; at every step the
elapsed time and the number of frames agree, and the start, the current timestamp and the
timestamps that are answered are `90000 * k` ticks later.  A cadence whose origin does not look at
the clock is created and behaves in the same way under any clocks at all, and none of them is a
fault. -/
theorem clock_shift_shifts_run (d : Duration .tick) (origin : Origin) :
    (origin.readsClock = true →
      ∀ (k : ℕ) (clock laterClock : Reading) (es laterEs : List Event) (later : Cadence),
        clock.Later k laterClock → List.Forall₂ (Event.Alike (Reading.Later k)) es laterEs →
        Cadence.create d origin laterClock = .ok later →
        (Session.run ⟨laterClock, later⟩ laterEs).Succeeds →
        ∃ c, Cadence.create d origin clock = .ok c ∧ c.Later k later ∧
          (Session.run ⟨clock, c⟩ es).Succeeds ∧
          List.Forall₂ (fun entry laterEntry =>
              entry.1.Later k laterEntry.1 ∧ entry.2.cadence.Later k laterEntry.2.cadence)
            (Session.run ⟨clock, c⟩ es).entries
            (Session.run ⟨laterClock, later⟩ laterEs).entries) ∧
    (origin.readsClock = false → 0 < d.toInt →
      ∀ (clock clock' : Reading) (es es' : List Event),
        List.Forall₂ (Event.Alike fun _ _ => True) es es' →
        ∃ c, Cadence.create d origin clock = .ok c ∧ Cadence.create d origin clock' = .ok c ∧
          (Session.run ⟨clock, c⟩ es).fault = none ∧ (Session.run ⟨clock', c⟩ es').fault = none ∧
          (Session.run ⟨clock, c⟩ es).cadences = (Session.run ⟨clock', c⟩ es').cadences) := by
  constructor
  · intro hreads k clock laterClock es laterEs later hclock hes hlater hrun
    obtain ⟨hd, laterStart, hres, rfl⟩ := create_eq_ok_iff.1 hlater
    obtain ⟨start, hstart, hstartLater⟩ := Origin.resolve_later hreads hclock hres
    have hcadence := later_atStart d origin hstartLater
    obtain ⟨hsucceeds, hentries⟩ := run_later (s := ⟨clock, _⟩) hreads
      (counted_atStart hd origin start) (counted_atStart hd origin laterStart)
      ⟨hclock, hcadence⟩ hes hrun
    refine ⟨_, create_eq_ok_iff.2 ⟨hd, start, hstart, rfl⟩, hcadence, hsucceeds, ?_⟩
    exact hentries.imp fun _ _ h => ⟨h.1, h.2.cadence⟩
  · intro hreads hd clock clock' es es' hes
    obtain ⟨start, hstart⟩ := Origin.exists_resolve_eq_ok hreads
    exact ⟨_, create_eq_ok_iff.2 ⟨hd, start, hstart clock, rfl⟩,
      create_eq_ok_iff.2 ⟨hd, start, hstart clock', rfl⟩,
      run_alike clock clock' hreads (counted_atStart hd origin start) hes⟩

/-- A clock in milliseconds and the same three seconds later, set once on the way; and a cadence at a
given start under two clocks that are both broken. -/
theorem clock_shift_shifts_run_three_seconds :
    (∃ c, Cadence.create ⟨3003⟩ (.nextSecond ⟨-45000⟩) ⟨.millisecond, 6500⟩ = .ok c ∧
      c.Later 3 (atStart ⟨3003⟩ (.nextSecond ⟨-45000⟩) ⟨855000⟩) ∧
      (Session.run ⟨⟨.millisecond, 6500⟩, c⟩
        [.advance 2, .clock ⟨.millisecond, 7001⟩, .restart, .advance 5]).Succeeds) ∧
    ∃ c, Cadence.create ⟨3003⟩ (.fixed ⟨-5⟩) ⟨.hour, Int64.maxValue⟩ = .ok c ∧
      (Session.run ⟨⟨.hour, Int64.maxValue⟩, c⟩ [.advance 1, .restart]).fault = none ∧
      (Session.run ⟨⟨.second, -1⟩, c⟩ [.advance 1, .restart]).fault = none := by
  have hclock : Reading.Later 3 ⟨.millisecond, 6500⟩ ⟨.millisecond, 9500⟩ :=
    ⟨rfl, by decide, ⟨by decide, by decide⟩, ⟨by decide, by decide⟩⟩
  have hset : Reading.Later 3 ⟨.millisecond, 7001⟩ ⟨.millisecond, 10001⟩ :=
    ⟨rfl, by decide, ⟨by decide, by decide⟩, ⟨by decide, by decide⟩⟩
  have hcreate : Cadence.create ⟨3003⟩ (.nextSecond ⟨-45000⟩) ⟨.millisecond, 9500⟩ =
      .ok (atStart ⟨3003⟩ (.nextSecond ⟨-45000⟩) ⟨855000⟩) := by decide
  constructor
  · obtain ⟨c, hc, hlater, hsucceeds, -⟩ :=
      (clock_shift_shifts_run ⟨3003⟩ (.nextSecond ⟨-45000⟩)).1 rfl 3 _ _
        [.advance 2, .clock ⟨.millisecond, 7001⟩, .restart, .advance 5]
        [.advance 2, .clock ⟨.millisecond, 10001⟩, .restart, .advance 5] _ hclock
        (.cons (.advance 2) (.cons (.clock hset) (.cons .restart (.cons (.advance 5) .nil))))
        hcreate (by decide)
    exact ⟨c, hc, hlater, hsucceeds⟩
  · obtain ⟨c, hc, -, hfault, hfault', -⟩ :=
      (clock_shift_shifts_run ⟨3003⟩ (.fixed ⟨-5⟩)).2 rfl (by decide) ⟨.hour, Int64.maxValue⟩
        ⟨.second, -1⟩ [.advance 1, .restart] [.advance 1, .restart]
        (.cons (.advance 1) (.cons .restart .nil))
    exact ⟨c, hc, hfault, hfault'⟩

end Session

end Cadence

end FrameTiming
