import FrameTiming.Proofs.Counting

/-!
# Frames one by one and all at once

Whether a cadence moves on by some frames in one step or in several must not show, neither in the
timestamps nor in what is refused.  The four checks of an advance look at a step of a certain size;
that they compose is a fact about the sessions a cadence gets into, where the counters agree and a
frame takes at least one tick.

* `Counted.reaches_add_iff`, `Counted.forward_forward` — where a step of `a + b` frames is
  possible, and where it leads, in terms of a step of `a` and one of `b`.
* `Counted.advance?_add` — so two advances in a row are one, refusals included.
* `run_singly_of_reaches`, `exists_refused_of_not_reaches` — a run of single frames, by induction
  on their number.
* `Counted.reaches_iff_fits`, `advance?_eq_none_iff_unfit` — what is refused: an elapsed time and a
  timestamp that do not fit.

**The elapsed time counts.**  From a start at or after the epoch the timestamp leaves the range
first.  From a start far before it the elapsed time does, and an advance is refused although its
timestamp could be given: `refused_although_due_fits`.
-/

namespace FrameTiming.Cadence

open Session

/-! ## Numbers of frames -/

lemma toNat_add_of_lt {a b : UInt64} (hab : a.toNat + b.toNat < 2 ^ 64) :
    (a + b).toNat = a.toNat + b.toNat := by
  rw [UInt64.toNat_add, Nat.mod_eq_of_lt hab]

lemma ofNat_succ (n : ℕ) : UInt64.ofNat (n + 1) = 1 + UInt64.ofNat n := by
  rw [Nat.add_comm, UInt64.ofNat_add]
  rfl

lemma one_add_toNat_lt {n : ℕ} (hn : n + 1 < 2 ^ 64) :
    (1 : UInt64).toNat + (UInt64.ofNat n).toNat < 2 ^ 64 := by
  have hrest : (UInt64.ofNat n).toNat = n := UInt64.toNat_ofNat_of_lt' (Nat.lt_of_succ_lt hn)
  rw [hrest, UInt64.toNat_one, Nat.add_comm]
  exact hn

/-! ## Two steps in a row -/

namespace Counted

variable {c : Cadence} {a b : UInt64}

/-- To stay is always possible. -/
lemma reaches_zero (h : c.Counted) : c.Reaches 0 := by
  have helapsed : c.elapsed.toInt < 2 ^ 63 := c.elapsed.count.toInt_lt
  have hdue := h.due_lt
  rw [h.elapsed_eq] at helapsed hdue
  rw [Reaches, UInt64.toNat_zero, Nat.cast_zero, add_zero]
  constructor <;> omega

/-- Fewer frames are possible where more are. -/
lemma reaches_of_le (h : c.Counted) (hab : a.toNat ≤ b.toNat) (hb : c.Reaches b) :
    c.Reaches a := by
  have hpart : c.frameDuration.toInt * (c.frames.toNat + a.toNat) ≤
      c.frameDuration.toInt * (c.frames.toNat + b.toNat) :=
    Int.mul_le_mul_of_nonneg_left (by omega) h.frameDuration_pos.le
  obtain ⟨helapsed, hdue⟩ := hb
  constructor <;> omega

/-- A step that is possible at once is possible in two parts, and the other way round. -/
lemma reaches_add_iff (h : c.Counted) (hab : a.toNat + b.toNat < 2 ^ 64) :
    c.Reaches (a + b) ↔ c.Reaches a ∧ (c.forward a).Reaches b := by
  have hsecond (ha : c.Reaches a) : (c.forward a).Reaches b ↔ c.Reaches (a + b) := by
    simp only [Reaches, toNat_add_of_lt hab, h.toNat_frames_add ha, forward]
    push_cast
    rw [add_assoc]
  constructor
  · intro hreach
    have hfirst : c.Reaches a := by
      refine h.reaches_of_le ?_ hreach
      rw [toNat_add_of_lt hab]
      exact Nat.le_add_right ..
    exact ⟨hfirst, (hsecond hfirst).2 hreach⟩
  · rintro ⟨hfirst, hreach⟩
    exact (hsecond hfirst).1 hreach

/-- Both ways lead to the same cadence. -/
lemma forward_forward (h : c.Counted) (ha : c.Reaches a) (hab : a.toNat + b.toNat < 2 ^ 64) :
    (c.forward a).forward b = c.forward (a + b) := by
  have hsum : ((c.frames + a).toNat : ℤ) + b.toNat = c.frames.toNat + (a + b).toNat := by
    rw [h.toNat_frames_add ha, toNat_add_of_lt hab]
    push_cast
    rw [add_assoc]
  simp only [forward, hsum, UInt64.add_assoc]

/-- **Two advances in a row are one**, refused exactly when one of them is. -/
lemma advance?_add (h : c.Counted) (hab : a.toNat + b.toNat < 2 ^ 64) :
    ((c.advance? a).bind fun next => next.advance? b) = c.advance? (a + b) := by
  have hadd := h.reaches_add_iff hab
  rw [h.advance?_eq a, h.advance?_eq (a + b)]
  by_cases ha : c.Reaches a
  · rw [if_pos ha, Option.bind_some, (h.forward ha).advance?_eq b, h.forward_forward ha hab]
    simp only [hadd, ha, true_and]
  · rw [if_neg ha, if_neg fun hreach => ha (hadd.1 hreach).1, Option.bind_none]

end Counted

/-! ## Single frames -/

namespace Session

variable {s : Session}

/-- To move on by `n` frames, one at a time. -/
def singly (n : ℕ) : List Event := List.replicate n (.advance 1)

/-- What is seen of a session after it has moved on by `n` frames at once. -/
def advanced (s : Session) (n : UInt64) : Answer × Session :=
  (.stamped (s.cadence.forward n).now, { s with cadence := s.cadence.forward n })

/-- One more frame is one frame and then the others. -/
lemma reaches_succ_iff (h : s.cadence.Counted) {n : ℕ} (hn : n + 1 < 2 ^ 64) :
    s.cadence.Reaches (UInt64.ofNat (n + 1)) ↔
      s.cadence.Reaches 1 ∧ (s.cadence.forward 1).Reaches (UInt64.ofNat n) := by
  rw [ofNat_succ]
  exact h.reaches_add_iff (one_add_toNat_lt hn)

lemma advanced_advanced (h : s.cadence.Counted) (hone : s.cadence.Reaches 1) {n : ℕ}
    (hn : n + 1 < 2 ^ 64) :
    (s.advanced 1).2.advanced (UInt64.ofNat n) = s.advanced (UInt64.ofNat (n + 1)) := by
  simp only [advanced, ofNat_succ, h.forward_forward hone (one_add_toNat_lt hn)]

lemma run_singly_succ (h : s.cadence.Counted) (hone : s.cadence.Reaches 1) (n : ℕ) :
    s.run (singly (n + 1)) =
      ⟨s.advanced 1 :: ((s.advanced 1).2.run (singly n)).entries,
        ((s.advanced 1).2.run (singly n)).fault⟩ := by
  have hstep : s.step (.advance 1) = .ok (s.advanced 1) := by
    rw [step_advance h, if_pos hone]
    rfl
  exact run_cons_of_step hstep (singly n)

/-- Single frames that can be reached at once are all stamped, each as if it had been reached at
once. -/
lemma run_singly_of_reaches (h : s.cadence.Counted) {n : ℕ} (hn : n < 2 ^ 64)
    (hreach : s.cadence.Reaches (UInt64.ofNat n)) :
    s.run (singly n) = ⟨(List.range n).map fun i => s.advanced (UInt64.ofNat (i + 1)), none⟩ := by
  induction n generalizing s with
  | zero => rfl
  | succ n ih =>
      obtain ⟨hone, hrest⟩ := (reaches_succ_iff h hn).1 hreach
      have hlater := ih (s := (s.advanced 1).2) (h.forward hone) (by omega) hrest
      rw [run_singly_succ h hone, hlater, List.range_succ_eq_map, List.map_cons, List.map_map]
      congr 2
      refine List.map_congr_left fun i hi => ?_
      have hlt := List.mem_range.1 hi
      exact advanced_advanced h hone (by omega)

/-- Single frames that cannot be reached at once end in a refusal. -/
lemma exists_refused_of_not_reaches (h : s.cadence.Counted) {n : ℕ} (hn : n < 2 ^ 64)
    (hreach : ¬ s.cadence.Reaches (UInt64.ofNat n)) :
    ∃ entry ∈ (s.run (singly n)).entries, entry.1 = .refused := by
  induction n generalizing s with
  | zero => exact absurd h.reaches_zero hreach
  | succ n ih =>
      by_cases hone : s.cadence.Reaches 1
      · rw [reaches_succ_iff h hn] at hreach
        obtain ⟨entry, hmem, hrefused⟩ :=
          ih (s := (s.advanced 1).2) (h.forward hone) (by omega) fun hrest => hreach ⟨hone, hrest⟩
        rw [run_singly_succ h hone]
        exact ⟨entry, List.mem_cons_of_mem _ hmem, hrefused⟩
      · refine ⟨(.refused, s), ?_, rfl⟩
        have hstep : s.step (.advance 1) = .ok (.refused, s) := by
          rw [step_advance h, if_neg hone]
        rw [singly, List.replicate_succ, run_cons_of_step hstep]
        exact List.mem_cons_self

/-- The single frames before the `n`-th are stamped one frame duration apart. -/
lemma toInt_stamp_singly (h : s.cadence.Counted) {n : UInt64} (hreach : s.cadence.Reaches n)
    {i : ℕ} (hi : i < n.toNat) :
    (s.cadence.forward (UInt64.ofNat (i + 1))).now.toInt =
      s.cadence.start.toInt +
        s.cadence.frameDuration.toInt * (s.cadence.frames.toNat + (i + 1)) := by
  have hlt := n.toNat_lt
  have hnat : (UInt64.ofNat (i + 1)).toNat = i + 1 :=
    UInt64.toNat_ofNat_of_lt' (Nat.lt_of_le_of_lt hi hlt)
  rw [h.toInt_now_forward (h.reaches_of_le (hnat.le.trans hi) hreach), hnat]
  push_cast
  rfl

/-! ## Batches -/

/-- **The number of steps does not show.**  In every session that a cadence gets into, two advances
in a row succeed exactly when one by the sum of their frames does, and the cadence is then the same
in every field.  Any number of single frames succeed, each of them, exactly when they do at once,
with the same cadence in the end; the single frames are stamped one after the other, one frame
duration apart. -/
theorem advance?_batch_independent {d : Duration .tick} {origin : Origin}
    (hs : Reachable d origin s) :
    (∀ a b : UInt64, a.toNat + b.toNat < 2 ^ 64 →
      ((s.cadence.advance? a).bind fun next => next.advance? b) = s.cadence.advance? (a + b)) ∧
    ∀ n : UInt64, 1 ≤ n.toNat →
      ((s.run (singly n.toNat)).Succeeds ↔ (s.cadence.advance? n).isSome) ∧
      ∀ c, s.cadence.advance? n = some c →
        ((s.run (singly n.toNat)).entries.getLast?.map fun entry => entry.2) =
          some { s with cadence := c } ∧
        ((s.run (singly n.toNat)).entries.map fun entry => entry.1.counted) =
          (List.range n.toNat).map fun i =>
            .stamped (s.cadence.start.toInt + d.toInt * (s.cadence.frames.toNat + (i + 1))) := by
  obtain ⟨h, rfl, -⟩ := hs.counted
  refine ⟨fun a b hab => h.advance?_add hab, ?_⟩
  intro n hpos
  have hn : UInt64.ofNat n.toNat = n := UInt64.ofNat_toNat
  rw [h.advance?_eq n]
  by_cases hreach : s.cadence.Reaches n
  · rw [if_pos hreach, run_singly_of_reaches h n.toNat_lt (hn.symm ▸ hreach)]
    refine ⟨?_, ?_⟩
    · simp [Transcript.Succeeds, advanced, Answer.Succeeds]
    · rintro c ⟨⟩
      constructor
      · obtain ⟨m, hm⟩ := Nat.exists_eq_add_of_le' hpos
        rw [hm, List.range_succ, List.map_append, List.map_singleton, List.getLast?_concat, ← hm, hn]
        rfl
      · rw [List.map_map]
        refine List.map_congr_left fun i hi => ?_
        exact congrArg _ (toInt_stamp_singly h hreach (List.mem_range.1 hi))
  · rw [if_neg hreach]
    obtain ⟨entry, hmem, hrefused⟩ :=
      exists_refused_of_not_reaches h n.toNat_lt (hn.symm ▸ hreach)
    refine ⟨?_, ?_⟩
    · refine iff_of_false ?_ (by simp)
      rintro ⟨-, hall⟩
      have hsucceeds := hall entry hmem
      rw [hrefused] at hsucceeds
      exact hsucceeds
    · rintro c ⟨⟩

/-- A cadence that starts 101 ticks before the last one and has failed to restart: it takes 101 more
frames in any number of steps, and 102 in none. -/
theorem advance?_batch_independent_after_failed_restart :
    ∃ s, Reachable ⟨1⟩ (.present ⟨9223372036854775706⟩) s ∧ s.cadence.now ≠ s.cadence.start ∧
      ((s.cadence.advance? 60).bind fun next => next.advance? 41) = s.cadence.advance? 101 ∧
      (s.run (singly 101)).Succeeds ∧ ¬ (s.run (singly 102)).Succeeds := by
  have hs : Reachable ⟨1⟩ (.present ⟨9223372036854775706⟩) ⟨⟨.second, 1⟩, ⟨⟨1⟩,
      .present ⟨9223372036854775706⟩, ⟨9223372036854775706⟩, ⟨9223372036854775707⟩, 0, 0⟩⟩ := by
    have hcreate : Cadence.create ⟨1⟩ (.present ⟨9223372036854775706⟩) ⟨.second, 0⟩ =
        .ok (atStart ⟨1⟩ (.present ⟨9223372036854775706⟩) ⟨9223372036854775706⟩) := by decide
    exact (Reachable.create hcreate).of_mem_run [.advance 1, .clock ⟨.second, 1⟩, .restart]
      (.failed (.origin .outOfRange), _) (by decide)
  obtain ⟨htwo, hsingly⟩ := advance?_batch_independent hs
  refine ⟨_, hs, by decide, htwo 60 41 (by decide), ?_, ?_⟩
  · exact (hsingly 101 (by decide)).1.2 (by decide)
  · rw [show 102 = (102 : UInt64).toNat by rfl, (hsingly 102 (by decide)).1]
    decide

end Session

/-! ## What is refused -/

lemma Counted.reaches_iff_fits {c : Cadence} (h : c.Counted) (n : UInt64) :
    c.Reaches n ↔ Fits (c.frameDuration.toInt * (c.frames.toNat + n.toNat)) ∧
      Fits (c.start.toInt + c.frameDuration.toInt * (c.frames.toNat + n.toNat)) := by
  have hle := natCast_le_mul h.frameDuration_pos (c.frames.toNat + n.toNat)
  have hmin : -2 ^ 63 ≤ c.start.toInt := c.start.count.le_toInt
  push_cast at hle
  unfold Reaches Fits
  omega

namespace Session

variable {s : Session}

/-- **An advance is refused only for what does not fit.**  That is the elapsed time or the timestamp
it would lead to; and where the start is not before the epoch, the timestamp alone decides. -/
theorem advance?_eq_none_iff_unfit {d : Duration .tick} {origin : Origin}
    (hs : Reachable d origin s) (n : UInt64) :
    (s.cadence.advance? n = none ↔
      ¬ (Fits (d.toInt * (s.cadence.frames.toNat + n.toNat)) ∧
        Fits (s.cadence.start.toInt + d.toInt * (s.cadence.frames.toNat + n.toNat)))) ∧
    (0 ≤ s.cadence.start.toInt → (s.cadence.advance? n = none ↔
      ¬ Fits (s.cadence.start.toInt + d.toInt * (s.cadence.frames.toNat + n.toNat)))) := by
  obtain ⟨h, rfl, -⟩ := hs.counted
  have hnone : s.cadence.advance? n = none ↔ ¬ s.cadence.Reaches n := by
    rw [h.advance?_eq n]
    simp
  rw [hnone, h.reaches_iff_fits n]
  refine ⟨Iff.rfl, ?_⟩
  intro hstart
  have hle := natCast_le_mul h.frameDuration_pos (s.cadence.frames.toNat + n.toNat)
  push_cast at hle
  unfold Fits
  omega

/-- Frames a quarter of the range long, from the least tick on: the first has been stamped. -/
lemma reachable_least_start : Reachable ⟨4611686018427387904⟩ (.fixed ⟨Int64.minValue⟩)
    ⟨⟨.second, 0⟩, ⟨⟨4611686018427387904⟩, .fixed ⟨Int64.minValue⟩, ⟨Int64.minValue⟩,
      ⟨-4611686018427387904⟩, ⟨4611686018427387904⟩, 1⟩⟩ := by
  have hcreate : Cadence.create ⟨4611686018427387904⟩ (.fixed ⟨Int64.minValue⟩) ⟨.second, 0⟩ =
      .ok (atStart ⟨4611686018427387904⟩ (.fixed ⟨Int64.minValue⟩) ⟨Int64.minValue⟩) := by decide
  exact (Reachable.create hcreate).step (e := .advance 1) rfl

/-- From the least tick on the elapsed time is the first to leave the range; from a late start the
timestamp is. -/
theorem advance?_eq_none_iff_unfit_least_and_late_start :
    (∃ s, Reachable ⟨4611686018427387904⟩ (.fixed ⟨Int64.minValue⟩) s ∧
      s.cadence.advance? 1 = none) ∧
    ∃ s, Reachable ⟨3003⟩ (.fixed ⟨9223372036854775000⟩) s ∧ 0 ≤ s.cadence.start.toInt ∧
      s.cadence.advance? 1 = none := by
  have hcreate : Cadence.create ⟨3003⟩ (.fixed ⟨9223372036854775000⟩) ⟨.second, -1⟩ =
      .ok (atStart ⟨3003⟩ (.fixed ⟨9223372036854775000⟩) ⟨9223372036854775000⟩) := by decide
  refine ⟨⟨_, reachable_least_start, ?_⟩, ⟨_, .create hcreate, by decide, ?_⟩⟩
  · exact (advance?_eq_none_iff_unfit reachable_least_start 1).1.2 (by decide)
  · exact ((advance?_eq_none_iff_unfit (.create hcreate) 1).2 (by decide)).2 (by decide)

/-- **A refused timestamp can be one that fits.**  The second frame of the cadence above would be
due at the epoch. -/
theorem refused_although_due_fits :
    ∃ s, Reachable ⟨4611686018427387904⟩ (.fixed ⟨Int64.minValue⟩) s ∧ s.cadence.frames = 1 ∧
      ¬ (s.cadence.advance? 1 = none ↔ ¬ Fits (s.cadence.start.toInt +
        (⟨4611686018427387904⟩ : Duration .tick).toInt *
          (s.cadence.frames.toNat + (1 : UInt64).toNat))) :=
  ⟨_, reachable_least_start, by decide, by decide⟩

end Session

end FrameTiming.Cadence
