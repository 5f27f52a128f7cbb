import FrameTiming.Proofs.Cascade
import FrameTiming.Proofs.Renewal

/-!
# Paced by a frame rate

A frame rate is a ratio, and the length of its frames is a whole number of ticks or nothing.  Where
it is a whole number, as many frames as the ratio names take exactly the seconds it names, and they
do so again and again: a recording of any length is on the second whenever it should be.

* `FrameRate.frameDuration?_eq_some_iff` — the length of a frame as an exact quotient.  A common
  factor of frames and seconds changes nothing about it (`frameDuration?_congr`).
* `Session.tally` — the frames since the last restart, told by what was asked and what was answered.
* `Session.toNat_frames_last` — a cadence counts the same frames, by induction on the run.
* `Duration.milliseconds_of_seconds`, `Duration.toNanos?_of_seconds` — whole seconds convert without
  a rest, one way always and the other as far as nanoseconds go.
-/

namespace FrameTiming

/-! ## The length of a frame -/

namespace FrameRate

variable {rate scaled : FrameRate} {d : Duration .tick}

/-- The ticks of all frames together never overflow. -/
lemma toInt_total (rate : FrameRate) :
    (ticksPerSecond * Word.ofCount rate.seconds).toInt = 90000 * rate.seconds.toNat := by
  have hlt := rate.seconds.toNat_lt
  have hmul := Word.toInt_mul (a := ticksPerSecond) (b := Word.ofCount rate.seconds)
  rw [Word.toInt_ofCount, toInt_ticksPerSecond] at hmul
  exact hmul (by unfold Fits; omega)

lemma rest_eq_zero_iff :
    ticksPerSecond * Word.ofCount rate.seconds % Word.ofCount rate.frames = 0 ↔
      rate.frames.toNat ∣ 90000 * rate.seconds.toNat := by
  rw [← Int64.toInt_inj, Int64.toInt_mod, toInt_total, Word.toInt_ofCount, Int64.toInt_zero,
    ← Int.dvd_iff_tmod_eq_zero]
  exact_mod_cast Iff.rfl

/-- The three tests of the code are the three conditions on a rate. -/
lemma refused_iff :
    (rate.frames = 0 ∨ rate.seconds = 0 ∨
        ticksPerSecond * Word.ofCount rate.seconds % Word.ofCount rate.frames ≠ 0) ↔
      ¬ (0 < rate.frames.toNat ∧ 0 < rate.seconds.toNat ∧
        rate.frames.toNat ∣ 90000 * rate.seconds.toNat) := by
  rw [ne_eq, rest_eq_zero_iff, ← UInt32.toNat_inj, ← UInt32.toNat_inj, UInt32.toNat_zero]
  simp only [Nat.pos_iff_ne_zero]
  tauto

/-- A whole number of ticks to each frame is all that is asked for. -/
lemma isSome_frameDuration?_iff :
    rate.frameDuration?.isSome ↔
      0 < rate.frames.toNat ∧ 0 < rate.seconds.toNat ∧
        rate.frames.toNat ∣ 90000 * rate.seconds.toNat := by
  simp only [frameDuration?, refused_iff]
  split_ifs with h
  · simp [h]
  · simpa using h

lemma toInt_mul_frames (h : rate.frameDuration? = some d) :
    d.toInt * rate.frames.toNat = 90000 * rate.seconds.toNat := by
  have hsome : rate.frameDuration?.isSome := by rw [h]; rfl
  obtain ⟨hpos, -, hdvd⟩ := isSome_frameDuration?_iff.1 hsome
  simp only [frameDuration?, refused_iff] at h
  split_ifs at h
  cases h
  have hframes := Word.toInt_ofCount rate.frames
  have hquot := Word.toInt_div_of_pos (a := ticksPerSecond * Word.ofCount rate.seconds)
    (b := Word.ofCount rate.frames) (by omega)
  rw [hframes, toInt_total] at hquot
  rw [Duration.toInt, hquot]
  exact Int.tdiv_mul_cancel (by exact_mod_cast hdvd)

/-- **A frame duration is an exact quotient.** -/
lemma frameDuration?_eq_some_iff :
    rate.frameDuration? = some d ↔
      0 < rate.frames.toNat ∧ 0 < rate.seconds.toNat ∧
        d.toInt * rate.frames.toNat = 90000 * rate.seconds.toNat := by
  constructor
  · intro h
    have hsome : rate.frameDuration?.isSome := by rw [h]; rfl
    obtain ⟨hframes, hseconds, -⟩ := isSome_frameDuration?_iff.1 hsome
    exact ⟨hframes, hseconds, toInt_mul_frames h⟩
  · rintro ⟨hframes, hseconds, hexact⟩
    have hdvd : (rate.frames.toNat : ℤ) ∣ 90000 * rate.seconds.toNat := ⟨d.toInt, by linarith⟩
    obtain ⟨e, he⟩ := Option.isSome_iff_exists.1
      (isSome_frameDuration?_iff.2 ⟨hframes, hseconds, by exact_mod_cast hdvd⟩)
    have hsame : e.toInt * rate.frames.toNat = d.toInt * rate.frames.toNat :=
      (toInt_mul_frames he).trans hexact.symm
    rw [he, Duration.toInt_inj.1 (Int.eq_of_mul_eq_mul_right (by omega) hsame)]

/-- A frame takes time. -/
lemma one_le_toInt (h : rate.frameDuration? = some d) : 1 ≤ d.toInt := by
  obtain ⟨hframes, hseconds, hexact⟩ := frameDuration?_eq_some_iff.1 h
  have hprod : 0 < d.toInt * rate.frames.toNat := by omega
  exact (mul_pos_iff_of_pos_right (by omega)).1 hprod

/-- **A common factor does not matter**, neither to whether there is a frame duration nor to what it
is. -/
lemma frameDuration?_congr {c : ℕ} (hc : 0 < c)
    (hframes : scaled.frames.toNat = c * rate.frames.toNat)
    (hseconds : scaled.seconds.toNat = c * rate.seconds.toNat) :
    scaled.frameDuration? = rate.frameDuration? := by
  ext d
  have hcancel : d.toInt * (c * rate.frames.toNat) = 90000 * (c * rate.seconds.toNat) ↔
      d.toInt * rate.frames.toNat = 90000 * rate.seconds.toNat := by
    rw [mul_left_comm, mul_left_comm 90000]
    exact mul_right_inj' (by omega)
  rw [frameDuration?_eq_some_iff, frameDuration?_eq_some_iff, hframes, hseconds,
    Nat.mul_pos_iff_of_pos_left hc, Nat.mul_pos_iff_of_pos_left hc]
  push_cast
  rw [hcancel]

end FrameRate

/-! ## Whole seconds of ticks -/

namespace Duration

variable {d : Duration .tick} {n : ℤ}

/-- Whole seconds have whole milliseconds. -/
lemma milliseconds_of_seconds (h : d.toInt = 90000 * n) : d.milliseconds.toInt = 1000 * n := by
  have hexact : 90000 * n = 90 * (1000 * n) := by ring
  rw [toInt_milliseconds, h, Rate.exact_ticks_milliseconds, hexact]
  exact Int.mul_tdiv_cancel_left _ (by decide)

/-- Whole seconds in nanoseconds are refused only when they do not fit. -/
lemma toNanos?_of_seconds (h : d.toInt = 90000 * n) :
    d.toNanos? = ofCount? (Word.ofInt? (n * 1000000000)) := by
  have hexact : Rate.exact (90000 * n) 90000 1000000000 = n * 1000000000 := by
    rw [Rate.exact, mul_assoc]
    exact Int.mul_tdiv_cancel_left _ (by decide)
  rw [toNanos?, nanoseconds?, toNanos?_ticksPerSecond, ← hexact, ← h]
  rfl

end Duration

/-! ## Frames since the last restart -/

namespace Cadence.Session

variable {s next : Session} {e : Event} {answer : Answer}

/-- The frames since the last restart after one more event, told by the event and its answer.  A
restart that fails counts as one. -/
def tally (frames : ℕ) : Event × Answer → ℕ
  | (.advance n, .stamped _) => frames + n.toNat
  | (.restart, _) => 0
  | _ => frames

/-- What was asked of a session and what it answered, up to the first fault. -/
def history (s : Session) (es : List Event) : List (Event × Answer) :=
  es.zip ((s.run es).entries.map Prod.fst)

/-- The session in which a run ends. -/
def last (s : Session) (es : List Event) : Session :=
  ((s.run es).entries.getLast?.map Prod.snd).getD s

lemma history_cons_of_step (h : s.step e = .ok (answer, next)) (es : List Event) :
    s.history (e :: es) = (e, answer) :: next.history es := by
  rw [history, run_cons_of_step h]
  rfl

lemma last_cons_of_step (h : s.step e = .ok (answer, next)) (es : List Event) :
    s.last (e :: es) = next.last es := by
  rw [last, run_cons_of_step h, List.getLast?_cons, last]
  cases (next.run es).entries.getLast? <;> rfl

/-- **One event counts the frames that it was told to count.** -/
lemma Move.toNat_frames (hmove : Move s e answer next) (h : s.cadence.Counted) :
    next.cadence.frames.toNat = tally s.cadence.frames.toNat (e, answer) := by
  cases hmove with
  | advanced hn => exact h.toNat_frames_add hn
  | refused _ => rfl
  | restarted _ => rfl
  | failed _ => rfl
  | clock _ => rfl

/-- **A run ends with the frames since its last restart.** -/
lemma toNat_frames_last (h : s.cadence.Counted) (es : List Event) :
    (s.last es).cadence.frames.toNat = (s.history es).foldl tally s.cadence.frames.toNat := by
  -- on the events, from any session whose counters are exact: a step leaves such a session behind
  induction es generalizing s with
  | nil => rfl
  | cons e es ih =>
      cases hstep : s.step e with
      | error fault =>
          -- the run ends in `s`, and the event that ended it has no answer to be counted by
          rw [last, history, run_cons_of_fault hstep]
          rfl
      | ok entry =>
          obtain ⟨answer, next⟩ := entry
          have hmove := (step_eq_ok_iff h).1 hstep
          rw [last_cons_of_step hstep, history_cons_of_step hstep, List.foldl_cons,
            ih (hmove.counted h), hmove.toNat_frames h]

lemma Reachable.last {origin : Origin} {d : Duration .tick} (h : Reachable d origin s)
    (es : List Event) : Reachable d origin (s.last es) := by
  rw [Session.last]
  cases hlast : (s.run es).entries.getLast? with
  | none => exact h
  | some entry => exact h.of_mem_run es entry (List.mem_of_getLast? hlast)

/-- **Whole periods of a frame rate take whole seconds.** -/
lemma toInt_elapsed_last {rate : FrameRate} {d : Duration .tick} {origin : Origin}
    (hd : rate.frameDuration? = some d) (hs : Reachable d origin s) (hstart : s.cadence.frames = 0)
    {es : List Event} {k : ℕ}
    (hk : (s.history es).foldl tally 0 = k * rate.frames.toNat) :
    (s.last es).cadence.elapsed.toInt = 90000 * (rate.seconds.toNat * k) := by
  -- the origin and the frame duration outlast the run, so `d` is that of the last session
  obtain ⟨hcounted, rfl, -⟩ := (hs.last es).counted
  have hframes := toNat_frames_last hs.counted.1 es
  rw [hstart, UInt64.toNat_zero, hk] at hframes
  calc (s.last es).cadence.elapsed.toInt
      = (s.last es).cadence.frameDuration.toInt * (s.last es).cadence.frames.toNat :=
        hcounted.elapsed_eq
    _ = (s.last es).cadence.frameDuration.toInt * rate.frames.toNat * k := by
        rw [hframes]; push_cast; ring
    _ = 90000 * (rate.seconds.toNat * k) := by
        rw [FrameRate.toInt_mul_frames hd, mul_assoc]

end Cadence.Session

/-! ## The whole statement -/

namespace FrameRate

open Cadence Cadence.Session

/-- **A cadence at an exact frame rate is on the second.**  A rate has a frame duration exactly when
there are frames and seconds and the ticks of the seconds can be divided among the frames.  The
duration is then that exact quotient, at least one tick, and stays the same when frames and seconds
are multiplied by a common factor; a cadence can be created from it wherever its origin resolves.
Whatever happens to such a cadence, when the frames since its last restart are `k` times the frames
of the rate, its elapsed time is `k` times the seconds of the rate: in ticks, in milliseconds, and
in nanoseconds as far as they fit. -/
theorem whole_periods_take_whole_seconds (rate : FrameRate) :
    (rate.frameDuration?.isSome ↔
      0 < rate.frames.toNat ∧ 0 < rate.seconds.toNat ∧
        rate.frames.toNat ∣ 90000 * rate.seconds.toNat) ∧
    ∀ d, rate.frameDuration? = some d →
      (d.toInt * rate.frames.toNat = 90000 * rate.seconds.toNat ∧ 1 ≤ d.toInt) ∧
      (∀ (c : ℕ) (scaled : FrameRate), 0 < c → scaled.frames.toNat = c * rate.frames.toNat →
        scaled.seconds.toNat = c * rate.seconds.toNat → scaled.frameDuration? = some d) ∧
      (∀ origin clock, Cadence.create d origin clock =
        ((origin.resolve clock).map (atStart d origin)).mapError Error.origin) ∧
      ∀ origin clock c, Cadence.create d origin clock = .ok c →
        ∀ (es : List Event) (k : ℕ),
          (history ⟨clock, c⟩ es).foldl tally 0 = k * rate.frames.toNat →
          let elapsed := (last ⟨clock, c⟩ es).cadence.elapsed
          elapsed.toInt = 90000 * rate.seconds.toNat * k ∧
          elapsed.milliseconds.toInt = 1000 * rate.seconds.toNat * k ∧
          (Fits (k * rate.seconds.toNat * 10 ^ 9) →
            ∃ span, elapsed.toNanos? = some span ∧
              span.toInt = k * rate.seconds.toNat * 10 ^ 9) ∧
          (¬ Fits (k * rate.seconds.toNat * 10 ^ 9) → elapsed.toNanos? = none) := by
  refine ⟨isSome_frameDuration?_iff, ?_⟩
  intro d hd
  have hpos := one_le_toInt hd
  refine ⟨⟨toInt_mul_frames hd, hpos⟩, ?_, create_eq_of_pos hpos, ?_⟩
  · intro c scaled hc hframes hseconds
    rw [frameDuration?_congr hc hframes hseconds, hd]
  · intro origin clock c hc es k hk elapsed
    obtain ⟨-, start, -, rfl⟩ := create_eq_ok_iff.1 hc
    have helapsed : elapsed.toInt = 90000 * (rate.seconds.toNat * k) :=
      toInt_elapsed_last hd (.create hc) rfl hk
    have hnanos := Duration.toNanos?_of_seconds helapsed
    rw [show (rate.seconds.toNat * k : ℤ) * 1000000000 = k * rate.seconds.toNat * 10 ^ 9 by ring]
      at hnanos
    refine ⟨?_, ?_, ?_, ?_⟩
    · rw [helapsed, mul_assoc]
    · rw [Duration.milliseconds_of_seconds helapsed, mul_assoc]
    · intro hfits
      obtain ⟨span, hspan⟩ := Duration.exists_toInt_eq (b := .nanosecond) hfits
      refine ⟨span, ?_, hspan⟩
      rw [hnanos, Duration.ofCount?_eq_some_iff, Word.ofInt?_eq_some_iff]
      exact hspan
    · intro hfits
      rw [hnanos, Duration.ofCount?_eq_none_iff, Word.ofInt?_eq_none_iff]
      exact hfits

/-- Colour television from the first whole second after 6.5 s, with a restart in between: 30 000
frames take 1001 seconds, and after ten million times as many there are no nanoseconds left to say
it in. -/
theorem whole_periods_take_whole_seconds_ntsc :
    frameDuration? ⟨30000, 1001⟩ = some ⟨3003⟩ ∧ frameDuration? ⟨60000, 2002⟩ = some ⟨3003⟩ ∧
    ∃ c, Cadence.create ⟨3003⟩ (.nextSecond 0) ⟨.millisecond, 6500⟩ = .ok c ∧
      (let elapsed := (last ⟨⟨.millisecond, 6500⟩, c⟩
        [.advance 777, .restart, .advance 20000, .advance 10000]).cadence.elapsed
      elapsed.milliseconds.toInt = 1001000 ∧
        ∃ span, elapsed.toNanos? = some span ∧ span.toInt = 1001000000000) ∧
      (last ⟨⟨.millisecond, 6500⟩, c⟩ [.advance 300000000000]).cadence.elapsed.toNanos? =
        none := by
  have hd : frameDuration? ⟨30000, 1001⟩ = some ⟨3003⟩ := by decide
  have hc : Cadence.create ⟨3003⟩ (.nextSecond 0) ⟨.millisecond, 6500⟩ =
      .ok (atStart ⟨3003⟩ (.nextSecond 0) ⟨630000⟩) := by decide
  obtain ⟨-, hscaled, -, hrun⟩ := (whole_periods_take_whole_seconds ⟨30000, 1001⟩).2 _ hd
  obtain ⟨-, hmilliseconds, hfits, -⟩ :=
    hrun _ _ _ hc [.advance 777, .restart, .advance 20000, .advance 10000] 1 (by decide)
  obtain ⟨-, -, -, hunfit⟩ := hrun _ _ _ hc [.advance 300000000000] 10000000 (by decide)
  refine ⟨hd, hscaled 2 ⟨60000, 2002⟩ (by decide) (by decide) (by decide), _, hc, ⟨?_, ?_⟩, ?_⟩
  · exact hmilliseconds
  · exact hfits (by decide)
  · exact hunfit (by decide)

end FrameRate

end FrameTiming
