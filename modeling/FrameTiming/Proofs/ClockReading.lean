import FrameTiming.Proofs.Conversion
import FrameTiming.Reading

/-!
# A clock reading is a conversion

A clock is read by taking whole seconds off its count and scaling what is left with the length of
one unit, a fraction in lowest terms.  A conversion between rates does the same with the two
rates.  For clocks that count seconds or a part of them the answers agree, refused ones included.

* `Resolution.exists_nanosPerUnit_mul` — the length of a unit is the nanosecond rate over the
  clock's own, in lowest terms.
* `Reading.nanos?_eq_toNanos?` — such a clock in nanoseconds is `Rate.toNanos?` of its count.
* `Reading.nanos?_eq_ofInt?` — every clock, hours and minutes included, against `exactNanos`.
* `Timestamp.timestamp?_reading` — a nanosecond clock set to a timestamp shows that timestamp.
* `Reading.nanos?_agrees_with_conversion` — all of this for each clock by name.
-/

namespace FrameTiming

namespace Resolution

/-- The length of a unit is the nanoseconds in a second over the units in a second, cancelled by
a common factor; a remainder of less than a second can be scaled by it without overflow. -/
lemma exists_nanosPerUnit_mul (u : Resolution) : ∃ k : ℤ, 0 < k ∧
    1000000000 = u.nanosPerUnit.1.toInt * k ∧ u.unitsPerSecond.toInt = u.nanosPerUnit.2.toInt * k ∧
    0 < u.nanosPerUnit.1.toInt ∧ 0 < u.nanosPerUnit.2.toInt ∧
    (u.unitsPerSecond.toInt - 1) * u.nanosPerUnit.1.toInt < 9223372036854775808 := by
  cases u with
  | hour => exact ⟨1, by decide⟩
  | minute => exact ⟨1, by decide⟩
  | second => exact ⟨1, by decide⟩
  | millisecond => exact ⟨1000, by decide⟩
  | microsecond => exact ⟨1000000, by decide⟩
  | nanosecond => exact ⟨1000000000, by decide⟩
  | picosecond => exact ⟨1000000000, by decide⟩
  | tick => exact ⟨10000, by decide⟩

lemma unitsPerSecond_pos (u : Resolution) : 0 < u.unitsPerSecond.toInt := by
  cases u <;> decide

lemma secondsPerUnit_pos (u : Resolution) : 0 < u.secondsPerUnit.toInt := by
  cases u <;> decide

/-- A unit is a number of seconds or a part of one. -/
lemma secondsPerUnit_or_unitsPerSecond (u : Resolution) :
    u.secondsPerUnit = 1 ∨ u.unitsPerSecond = 1 := by
  cases u <;> decide

/-- The clocks that count seconds or a part of them, each with its units in a second. -/
def rated : List (Resolution × Int64) :=
  [(.second, 1), (.millisecond, 1000), (.microsecond, 1000000), (.nanosecond, 1000000000),
    (.picosecond, 1000000000000), (.tick, 90000)]

/-- The clocks that count longer units, each with the seconds in one of them. -/
def coarse : List (Resolution × Int64) := [(.hour, 3600), (.minute, 60)]

lemma of_mem_rated : ∀ p ∈ rated, p.1.secondsPerUnit = 1 ∧ p.1.unitsPerSecond = p.2 := by
  decide

lemma of_mem_coarse : ∀ p ∈ coarse, p.1.secondsPerUnit = p.2 ∧ p.1.unitsPerSecond = 1 := by
  decide

end Resolution

namespace Reading

/-- What is left of a second is scaled as a conversion scales it. -/
lemma restNanos_eq_remainderPart (r : Reading) :
    r.restNanos = Rate.remainderPart r.count r.resolution.unitsPerSecond nanosPerSecond := by
  obtain ⟨k, hk, hsecond, hunits, hnum, hden, hbound⟩ := r.resolution.exists_nanosPerUnit_mul
  have hpos : 0 < r.resolution.unitsPerSecond.toInt := by
    rw [hunits]
    exact Int.mul_pos hden hk
  have hfits : Fits ((r.count % r.resolution.unitsPerSecond).toInt
      * r.resolution.nanosPerUnit.1.toInt) := by
    have hprod := Rate.tmod_mul_bounds (v := r.count.toInt) hpos hnum
    rw [Int64.toInt_mod]
    unfold Fits
    omega
  rw [← Int64.toInt_inj, Rate.toInt_remainderPart hpos (by decide), restNanos,
    Word.toInt_div_of_pos hden, Word.toInt_mul hfits, Int64.toInt_mod, toInt_nanosPerSecond]
  -- cancel the common factor of the two rates
  conv_rhs => rw [hsecond, ← mul_assoc]
  rw [hunits, Int.mul_tdiv_mul_of_pos_left _ _ hk]

/-- **A clock that counts seconds or a part of them is read as its count is converted.** -/
theorem nanos?_eq_toNanos? {r : Reading} (h : r.resolution.secondsPerUnit = 1) :
    r.nanos? = Rate.toNanos? r.count r.resolution.unitsPerSecond := by
  obtain ⟨k, hk, -, hunits, -, hden, -⟩ := r.resolution.exists_nanosPerUnit_mul
  have hpos : 0 < r.resolution.unitsPerSecond.toInt := by
    rw [hunits]
    exact Int.mul_pos hden hk
  have hrates : ¬ (r.resolution.unitsPerSecond ≤ 0 ∨ nanosPerSecond ≤ 0) := by
    simp only [Int64.le_iff_toInt_le, Int64.toInt_zero, toInt_nanosPerSecond]
    omega
  have hseconds : r.seconds? = some (r.count / r.resolution.unitsPerSecond) := by
    rw [seconds?, h, Word.mul?_eq_ofInt?, Int64.toInt_one, mul_one, Word.ofInt?_toInt]
    rfl
  rw [nanos?, hseconds, restNanos_eq_remainderPart, Rate.toNanos?, Rate.convert?, if_neg hrates]
  rfl

/-! ## Every clock -/

/-- The nanoseconds that a clock shows, over unbounded integers: its count in seconds, scaled and
truncated toward the epoch. -/
def exactNanos (r : Reading) : ℤ :=
  Rate.exact (r.count.toInt * r.resolution.secondsPerUnit.toInt) r.resolution.unitsPerSecond.toInt
    1000000000

/-- A clock that counts whole seconds shows whole seconds. -/
lemma exactNanos_eq_mul {r : Reading} (h : r.resolution.unitsPerSecond = 1) :
    r.exactNanos = r.count.toInt * r.resolution.secondsPerUnit.toInt * 1000000000 := by
  rw [exactNanos, h, Rate.exact, Int64.toInt_one, Int.tdiv_one]

/-- **Reading a clock is exact.**  It refuses nothing but nanoseconds that do not fit. -/
theorem nanos?_eq_ofInt? (r : Reading) : r.nanos? = Word.ofInt? r.exactNanos := by
  rcases r.resolution.secondsPerUnit_or_unitsPerSecond with hshort | hlong
  · rw [nanos?_eq_toNanos? hshort, Rate.toNanos?,
      Rate.convert?_eq_ofInt? r.resolution.unitsPerSecond_pos (by decide), exactNanos, hshort,
      Int64.toInt_one, mul_one, toInt_nanosPerSecond]
  · -- whole seconds leave nothing over
    have hrest : r.restNanos = 0 := by
      rw [← Int64.toInt_inj, restNanos_eq_remainderPart,
        Rate.toInt_remainderPart r.resolution.unitsPerSecond_pos (by decide), hlong,
        Int64.toInt_one, Int.tmod_one, Int.zero_mul, Int.zero_tdiv, Int64.toInt_zero]
    rw [nanos?, seconds?, hrest, hlong, Word.mul?_eq_ofInt?, exactNanos_eq_mul hlong]
    cases hseconds : Word.ofInt? (r.count.toInt * r.resolution.secondsPerUnit.toInt) with
    | none =>
      have hfits := Word.ofInt?_eq_none_iff.1 hseconds
      symm
      rw [Option.map_none, Option.bind_eq_bind, Option.bind_none, Word.ofInt?_eq_none_iff]
      unfold Fits at *
      omega
    | some seconds =>
      rw [← Word.ofInt?_eq_some_iff.1 hseconds, Option.map_some, Int64.div_one]
      simp only [Option.bind_eq_bind, Option.bind_some, Word.mul?_eq_ofInt?, toInt_nanosPerSecond,
        Word.add?_eq_ofInt?, Int64.toInt_zero, add_zero, Word.ofInt?_toInt, Option.bind_fun_some]

/-- **The present according to a clock** is what it shows, from the epoch on and within range. -/
theorem timestamp_eq_ok_iff {r : Reading} {t : Timestamp .nanosecond} :
    r.timestamp = .ok t ↔ 0 ≤ r.count.toInt ∧ t.toInt = r.exactNanos := by
  have hcount : r.count < 0 ↔ ¬ 0 ≤ r.count.toInt := by
    rw [Int64.lt_iff_toInt_lt, Int64.toInt_zero, not_le]
  have htimestamp : r.timestamp? = some t ↔ t.toInt = r.exactNanos := by
    rw [timestamp?, Timestamp.ofCount?_eq_some_iff, nanos?_eq_ofInt?, Word.ofInt?_eq_some_iff]
    rfl
  rw [← htimestamp, timestamp]
  by_cases hneg : r.count < 0
  · simp [hneg, hcount.1 hneg]
  · rw [if_neg hneg]
    cases r.timestamp? <;> simp [not_not.1 (hcount.not.1 hneg)]

end Reading

/-- **A nanosecond clock set to a timestamp shows that timestamp.** -/
theorem Timestamp.timestamp?_reading (t : Timestamp .nanosecond) :
    t.reading.timestamp? = some t := by
  rw [Reading.timestamp?, Timestamp.ofCount?_eq_some_iff, Reading.nanos?_eq_toNanos? rfl,
    Rate.toNanos?_eq_some_iff]
  refine ⟨show 0 < nanosPerSecond.toInt by decide, ?_⟩
  exact (Int.mul_tdiv_cancel t.count.toInt (by decide)).symm

/-! ## The whole statement -/

namespace Reading

/-- **Reading a clock and converting a count agree.**  A clock that counts seconds or a part of
them shows what the conversion from its rate gives, refused or not: the exact number of nanoseconds,
truncated toward the epoch, whenever it fits.  A clock that counts hours or minutes shows its
seconds in nanoseconds whenever they fit, provided that the seconds do.  So a tick clock is read as
a tick duration is converted, and every timestamp survives the way to a nanosecond clock and
back. -/
theorem nanos?_agrees_with_conversion :
    (∀ p ∈ Resolution.rated, ∀ c : Int64,
      (⟨p.1, c⟩ : Reading).nanos? = Rate.toNanos? c p.2 ∧
      (∀ n, (⟨p.1, c⟩ : Reading).nanos? = some n ↔
        n.toInt = (c.toInt * 1000000000).tdiv p.2.toInt) ∧
      ((⟨p.1, c⟩ : Reading).nanos? = none ↔
        ¬ Fits ((c.toInt * 1000000000).tdiv p.2.toInt))) ∧
    (∀ p ∈ Resolution.coarse, ∀ c : Int64, Fits (c.toInt * p.2.toInt) →
      (∀ n, (⟨p.1, c⟩ : Reading).nanos? = some n ↔
        n.toInt = c.toInt * p.2.toInt * 1000000000) ∧
      ((⟨p.1, c⟩ : Reading).nanos? = none ↔
        ¬ Fits (c.toInt * p.2.toInt * 1000000000))) ∧
    (∀ d : Duration .tick, (⟨.tick, d.count⟩ : Reading).nanos? = d.nanoseconds?) ∧
    (∀ t : Timestamp .nanosecond, t.reading.timestamp? = some t) := by
  refine ⟨?_, ?_, ?_, Timestamp.timestamp?_reading⟩
  · rintro ⟨u, rate⟩ hp c
    obtain ⟨hseconds, hrate⟩ : u.secondsPerUnit = 1 ∧ u.unitsPerSecond = rate :=
      Resolution.of_mem_rated _ hp
    have hpos := u.unitsPerSecond_pos
    have hread : (⟨u, c⟩ : Reading).nanos? = Rate.toNanos? c u.unitsPerSecond :=
      nanos?_eq_toNanos? hseconds
    rw [hrate] at hpos hread
    refine ⟨hread, fun n => ?_, ?_⟩
    · rw [hread, Rate.toNanos?_eq_some_iff]
      exact and_iff_right hpos
    · rw [hread, Rate.toNanos?_eq_none_iff, and_iff_right hpos]
      rfl
  · rintro ⟨u, seconds⟩ hp c -
    obtain ⟨hseconds, hrate⟩ : u.secondsPerUnit = seconds ∧ u.unitsPerSecond = 1 :=
      Resolution.of_mem_coarse _ hp
    have hexact : (⟨u, c⟩ : Reading).exactNanos = c.toInt * seconds.toInt * 1000000000 := by
      rw [← hseconds]
      exact exactNanos_eq_mul hrate
    rw [nanos?_eq_ofInt?, hexact]
    exact ⟨fun n => Word.ofInt?_eq_some_iff, Word.ofInt?_eq_none_iff⟩
  · intro d
    exact nanos?_eq_toNanos? rfl

/-- The least count of a picosecond clock, and the last hour that nanoseconds can express with the
one after it. -/
theorem nanos?_agrees_with_conversion_least_and_last :
    (⟨.picosecond, Int64.minValue⟩ : Reading).nanos? =
      Rate.toNanos? Int64.minValue 1000000000000 ∧
    (⟨.picosecond, Int64.minValue⟩ : Reading).nanos? = some (-9223372036854775) ∧
    (⟨.hour, 2562047⟩ : Reading).nanos? = some 9223369200000000000 ∧
    (⟨.hour, 2562048⟩ : Reading).nanos? = none := by
  have hfine := nanos?_agrees_with_conversion.1 (.picosecond, 1000000000000) (by decide)
    Int64.minValue
  have hhour (c : Int64) := nanos?_agrees_with_conversion.2.1 (.hour, 3600) (by decide) c
  refine ⟨hfine.1, (hfine.2.1 _).2 (by decide), ?_, ?_⟩
  · exact ((hhour 2562047 (by decide)).1 _).2 (by decide)
  · exact (hhour 2562048 (by decide)).2.2 (by decide)

end Reading

end FrameTiming
