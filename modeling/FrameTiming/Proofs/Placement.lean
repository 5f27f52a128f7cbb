import FrameTiming.Origin
import FrameTiming.Proofs.Present

/-!
# Where an origin puts the first frame

The first two kinds of origin go from the clock to a start in four steps: nanoseconds, ticks, the
first whole second not before them, and an offset.  Here each of them is an integer, truncated or
rounded up, and the start is the sum of the last two.

* `Timestamp.ceilSecond`, `Timestamp.nextSecond?_eq_some_iff` — ticks rounded up to whole seconds.
* `Reading.Sound.exists_ticks_eq_ok` — the ticks that a clock shows when it is not broken.
* `Origin.base`, `Origin.place?_eq_some_iff` — what the offset of an origin is added to, and the
  start that results; `Origin.resolve_eq_ok_iff` — the same from the clock.
-/

namespace FrameTiming

namespace Timestamp

/-- A number of ticks, rounded up to whole seconds. -/
def ceilSecond (n : ℤ) : ℤ := 90000 * -(-n / 90000)

lemma le_ceilSecond (n : ℤ) : n ≤ ceilSecond n := by
  unfold ceilSecond
  omega

lemma ceilSecond_add (n k : ℤ) : ceilSecond (n + 90000 * k) = ceilSecond n + 90000 * k := by
  unfold ceilSecond
  omega

/-- **The next whole second is the timestamp, rounded up.** -/
theorem nextSecond?_eq_some_iff {t u : Timestamp .tick} :
    t.nextSecond? = some u ↔ u.toInt = ceilSecond t.toInt := by
  have hfits := t.fits
  set past := t.count % ticksPerSecond with hpast
  have hmod : past.toInt = t.toInt.tmod 90000 := Int64.toInt_mod ..
  have hsign : 0 ≤ t.toInt ∧ past.toInt = t.toInt % 90000 ∨
      t.toInt ≤ 0 ∧ past.toInt = -(-t.toInt % 90000) := by
    obtain ⟨hafter, hbefore⟩ := Rate.tdiv_tmod_eq t.toInt 90000
    rcases le_total 0 t.toInt with h | h
    · exact Or.inl ⟨h, hmod.trans (hafter h).2⟩
    · exact Or.inr ⟨h, hmod.trans (hbefore h).2⟩
  rw [nextSecond?, ceilSecond]
  by_cases hrest : 0 < past
  · -- only a timestamp after the epoch has a positive rest
    have hpos : 0 < past.toInt := Int64.lt_iff_toInt_lt.1 hrest
    have hstep : (ticksPerSecond - past).toInt = 90000 - past.toInt :=
      Word.toInt_sub (by rw [toInt_ticksPerSecond]; unfold Fits; omega)
    rw [if_pos hrest, add?_eq_some_iff]
    change u.toInt = t.toInt + (ticksPerSecond - past).toInt ↔ _
    omega
  · have hpos : ¬ 0 < past.toInt := fun h => hrest (Int64.lt_iff_toInt_lt.2 h)
    have hstep : (t.count - past).toInt = t.toInt - past.toInt :=
      Word.toInt_sub (by change Fits (t.toInt - past.toInt); unfold Fits at *; omega)
    rw [if_neg hrest, Option.some.injEq, ← toInt_inj, eq_comm]
    change u.toInt = (t.count - past).toInt ↔ _
    omega

end Timestamp

/-! ## The ticks that a clock shows -/

namespace Reading

/-- A clock that is not broken shows its nanoseconds, truncated to ticks. -/
lemma Sound.exists_ticks_eq_ok {r : Reading} (h : r.Sound) :
    ∃ now, r.ticks = .ok now ∧ now.toInt = Rate.exact r.exactNanos 1000000000 90000 := by
  obtain ⟨t, htimestamp, ht⟩ := h.exists_timestamp_eq_ok
  refine ⟨t.toTicks, ticks_eq_ok_iff.2 ⟨t, htimestamp, rfl⟩, ?_⟩
  rw [Timestamp.toInt_toTicks, ht]

end Reading

/-! ## The start -/

namespace Origin

/-- The tick that an origin is moved away from by its offset, when the clock shows `now`. -/
def base (now : ℤ) : Origin → ℤ
  | .present _ => now
  | .nextSecond _ => Timestamp.ceilSecond now
  | .fixed time => time.toInt
  | .epoch => 0

/-- **A start is the base and the offset.**  It is refused when one of them does not fit. -/
theorem place?_eq_some_iff {origin : Origin} {now start : Timestamp .tick} :
    origin.place? now = some start ↔
      Fits (origin.base now.toInt) ∧
        start.toInt = origin.base now.toInt + origin.offset.toInt := by
  cases origin with
  | present offset =>
      rw [place?, Timestamp.add?_eq_some_iff]
      exact (and_iff_right (now.fits)).symm
  | nextSecond offset =>
      simp only [place?, Option.bind_eq_some_iff, Timestamp.nextSecond?_eq_some_iff,
        Timestamp.add?_eq_some_iff]
      constructor
      · rintro ⟨second, hsecond, hstart⟩
        rw [base, ← hsecond]
        exact ⟨second.fits, hstart⟩
      · rintro ⟨hfits, hstart⟩
        obtain ⟨second, hsecond⟩ := Timestamp.exists_toInt_eq hfits
        refine ⟨second, hsecond, ?_⟩
        rw [hstart, hsecond]
        rfl
  | fixed time =>
      rw [place?, Option.some.injEq, ← Timestamp.toInt_inj, eq_comm, base, offset,
        Duration.toInt_zero, add_zero, and_iff_right time.fits]
  | epoch =>
      rw [place?, Option.some.injEq, ← Timestamp.toInt_inj, eq_comm, base, offset,
        Duration.toInt_zero, add_zero, and_iff_right (by decide)]
      rfl

/-- What an origin that looks at the clock resolves to. -/
lemma resolve_eq_ok_iff {origin : Origin} {clock : Reading} {now start : Timestamp .tick}
    (hreads : origin.readsClock = true) (hnow : clock.ticks = .ok now) :
    origin.resolve clock = .ok start ↔
      Fits (origin.base now.toInt) ∧
        start.toInt = origin.base now.toInt + origin.offset.toInt := by
  rw [← place?_eq_some_iff, resolve, if_pos hreads, hnow]
  simp only [resolveAt]
  cases origin.place? now <;> simp

end Origin

end FrameTiming
