import FrameTiming.Proofs.RoundTrip
import FrameTiming.Timestamp.Text
import Mathlib.Data.Set.Operations

/-!
# The ticks that nanoseconds reach

A word of ticks covers far more time than a word of nanoseconds.  Every nanosecond count has its
ticks, but only some ticks have nanoseconds, and this module says which.

* `Rate.reachable` — the ticks in question, an interval with the epoch in its middle.
* `Rate.fits_exact_ticks_iff` — they are the ticks whose nanoseconds fit.
* `Rate.exists_exact_eq` — they are the ticks that come out of nanoseconds.
* `Timestamp.text_eq_dated_iff`, `Timestamp.takeInteger?_text` — what can be read in the text of a
  tick timestamp: the date, if it is one of these, and the ticks in any case.

**Both ends are alike**, although a word has one more negative value than positive ones.  Past the
nanoseconds of the outermost ticks some nine thousand are left to the end of the range, and the
next tick would take eleven thousand.
-/

namespace FrameTiming

namespace Rate

/-- The ticks that nanoseconds reach. -/
def reachable : Set ℤ := {n | -830103483316929 ≤ n ∧ n ≤ 830103483316929}

/-- **Ticks are in reach when their nanoseconds fit**, and only then. -/
lemma fits_exact_ticks_iff {n : ℤ} : Fits (exact n 90000 1000000000) ↔ n ∈ reachable := by
  have hcases := tdiv_tmod_eq (n * 100000) 9
  rw [exact_ticks_nanos, reachable, Set.mem_ofPred_eq, Fits]
  omega

lemma isSome_toNanos?_iff {n : Int64} :
    (toNanos? n ticksPerSecond).isSome ↔ n.toInt ∈ reachable := by
  rw [Duration.toNanos?_ticksPerSecond, Option.isSome_iff_ne_none, ne_eq, Word.ofInt?_eq_none_iff,
    not_not, fits_exact_ticks_iff]

/-! ## Ticks that come out of nanoseconds -/

lemma exact_nanos_mem_reachable {n : ℤ} (h : Fits n) : exact n 1000000000 90000 ∈ reachable := by
  have hcases := tdiv_tmod_eq (n * 9) 100000
  rw [exact_nanos_ticks, reachable, Set.mem_ofPred_eq]
  unfold Fits at h
  omega

/-- The nanosecond in which a tick begins. -/
lemma exists_exact_eq_of_nonneg {n : ℤ} (hn : 0 ≤ n) (hle : n ≤ 830103483316929) :
    ∃ m, 0 ≤ m ∧ m < 9223372036854775808 ∧ exact m 1000000000 90000 = n := by
  refine ⟨(n * 100000 + 8) / 9, by omega, by omega, ?_⟩
  rw [exact_nanos_ticks, Int.tdiv_eq_ediv_of_nonneg (by omega)]
  omega

/-- **Every tick in reach comes out of nanoseconds.** -/
lemma exists_exact_eq {n : ℤ} (h : n ∈ reachable) :
    ∃ m, Fits m ∧ exact m 1000000000 90000 = n := by
  obtain ⟨hlow, hup⟩ := h
  rcases le_total 0 n with hn | hn
  · obtain ⟨m, hm, hlt, hexact⟩ := exists_exact_eq_of_nonneg hn hup
    exact ⟨m, ⟨by omega, hlt⟩, hexact⟩
  · obtain ⟨m, hm, hlt, hexact⟩ := exists_exact_eq_of_nonneg (n := -n) (by omega) (by omega)
    refine ⟨-m, ⟨by omega, by omega⟩, ?_⟩
    rw [exact_neg, hexact, neg_neg]

end Rate

/-! ## Timestamps -/

namespace Timestamp

open Rate (reachable)

variable {t u : Timestamp .tick} {s : Timestamp .nanosecond}

lemma toInt_toTicks_mem_reachable (s : Timestamp .nanosecond) : s.toTicks.toInt ∈ reachable := by
  rw [toInt_toTicks]
  exact Rate.exact_nanos_mem_reachable s.fits

lemma exists_toInt_toTicks_eq_iff {n : ℤ} :
    (∃ s : Timestamp .nanosecond, s.toTicks.toInt = n) ↔ n ∈ reachable := by
  constructor
  · rintro ⟨s, rfl⟩
    exact toInt_toTicks_mem_reachable s
  · intro h
    obtain ⟨m, hfits, hexact⟩ := Rate.exists_exact_eq h
    obtain ⟨s, rfl⟩ : ∃ s : Timestamp .nanosecond, s.toInt = m := exists_toInt_eq hfits
    exact ⟨s, (toInt_toTicks s).trans hexact⟩

lemma isSome_toNanos?_iff : t.toNanos?.isSome ↔ t.toInt ∈ reachable := by
  rw [toNanos?, ofCount?, Option.isSome_map]
  exact Rate.isSome_toNanos?_iff

/-- A tick timestamp has nanoseconds when some nanosecond timestamp has these ticks. -/
lemma isSome_toNanos?_iff_exists :
    t.toNanos?.isSome ↔ ∃ s : Timestamp .nanosecond, s.toTicks = t := by
  rw [isSome_toNanos?_iff, ← exists_toInt_toTicks_eq_iff]
  simp only [toInt_inj]

/-! ## The text of a tick timestamp -/

lemma text_of_toNanos?_eq_none (h : t.toNanos? = none) : t.text = t.sinceEpoch.text := by
  simp [text, ticksText, unixTime?, h]

lemma text_of_toNanos?_eq_some (h : t.toNanos? = some s) :
    t.text = t.sinceEpoch.text ++ " (" ++ s.text ++ ")" := by
  simp [text, ticksText, unixTime?, h, nanosText]

/-- **The date in the text** is that of the nanoseconds. -/
lemma text_eq_dated_iff {date : String} :
    t.text = t.sinceEpoch.text ++ " (" ++ date ++ ")" ↔
      ∃ s, t.toNanos? = some s ∧ s.text = date := by
  cases hs : t.toNanos? with
  | none =>
    rw [text_of_toNanos?_eq_none hs]
    simp [← String.toList_inj]
  | some s =>
    rw [text_of_toNanos?_eq_some hs]
    simp

lemma exists_text_eq_dated_iff :
    (∃ date, t.text = t.sinceEpoch.text ++ " (" ++ date ++ ")") ↔ t.toNanos?.isSome := by
  constructor
  · rintro ⟨date, hdate⟩
    obtain ⟨s, hs, -⟩ := text_eq_dated_iff.1 hdate
    exact Option.isSome_of_eq_some hs
  · intro h
    obtain ⟨s, hs⟩ := Option.isSome_iff_exists.1 h
    exact ⟨s.text, text_of_toNanos?_eq_some hs⟩

lemma text_eq_undated_iff : t.text = t.sinceEpoch.text ↔ ¬ t.toNanos?.isSome := by
  cases hs : t.toNanos? with
  | none => simp [text_of_toNanos?_eq_none hs]
  | some s => simp [text_of_toNanos?_eq_some hs, ← String.toList_inj]

-- the last tick with a date, and the next one
example : (⟨830103483316929⟩ : Timestamp .tick).text =
    "830103483316929 ticks (2262-04-11T23:47:16.854766666Z)" := by
  decide

example : (⟨830103483316930⟩ : Timestamp .tick).text = "830103483316930 ticks" := by
  decide

/-- **The ticks can be read off the text**, with a date behind them or without. -/
lemma takeInteger?_text (t : Timestamp .tick) :
    (Decimal.takeInteger? t.text.toList).map Prod.fst = some t.toInt := by
  have hread (rest : List Char) :
      Decimal.takeInteger? (Decimal.integer t.toInt ++ ' ' :: rest) = some (t.toInt, ' ' :: rest) :=
    Decimal.takeInteger?_integer _ (Decimal.stops_cons rfl rest)
  cases hs : t.toNanos? with
  | none =>
    rw [text_of_toNanos?_eq_none hs]
    simp [Duration.text, Duration.unitMark, hread]
  | some s =>
    rw [text_of_toNanos?_eq_some hs]
    simp [Duration.text, Duration.unitMark, hread]

lemma text_inj : t.text = u.text ↔ t = u := by
  refine ⟨fun h => ?_, fun h => h ▸ rfl⟩
  have hread := congrArg (fun text : String => (Decimal.takeInteger? text.toList).map Prod.fst) h
  simp only [takeInteger?_text, Option.some.injEq] at hread
  exact toInt_inj.1 hread

/-! ## The whole statement -/

/-- **The two directions of the conversion match.**  The ticks that come out of nanosecond
timestamps are those up to 830 103 483 316 929 on both sides of the epoch, and exactly these have a
nanosecond timestamp, a calendar time and a nanosecond duration.  So the text of a tick timestamp
has a date when some nanosecond timestamp has these ticks, and only then; the date is the text of
the nanoseconds, and without one the ticks stand alone.  Different tick timestamps have different
texts. -/
theorem conversion_ranges_match :
    Set.range (fun s : Timestamp .nanosecond => s.toTicks.toInt) = reachable ∧
    (∀ n : Int64,
      ((⟨n⟩ : Timestamp .tick).toNanos?.isSome ↔ n.toInt ∈ reachable) ∧
      ((⟨n⟩ : Timestamp .tick).unixTime?.isSome ↔ n.toInt ∈ reachable) ∧
      ((⟨n⟩ : Duration .tick).nanoseconds?.isSome ↔ n.toInt ∈ reachable) ∧
      ((⟨n⟩ : Duration .tick).toNanos?.isSome ↔ n.toInt ∈ reachable)) ∧
    (∀ t : Timestamp .tick,
      ((∃ date, t.text = t.sinceEpoch.text ++ " (" ++ date ++ ")") ↔
        ∃ s : Timestamp .nanosecond, s.toTicks = t) ∧
      (t.text = t.sinceEpoch.text ↔ ¬ ∃ s : Timestamp .nanosecond, s.toTicks = t) ∧
      ∀ date, t.text = t.sinceEpoch.text ++ " (" ++ date ++ ")" ↔
        ∃ s, t.toNanos? = some s ∧ s.text = date) ∧
    (∀ t u : Timestamp .tick, t.text = u.text ↔ t = u) := by
  refine ⟨?_, ?_, ?_, fun t u => text_inj⟩
  · ext n
    exact exists_toInt_toTicks_eq_iff
  · intro n
    have hduration : (⟨n⟩ : Duration .tick).nanoseconds?.isSome ↔ n.toInt ∈ reachable :=
      Rate.isSome_toNanos?_iff
    refine ⟨isSome_toNanos?_iff, ?_, hduration, ?_⟩
    · rw [unixTime?, Option.isSome_map]
      exact isSome_toNanos?_iff
    · rw [Duration.toNanos?, Duration.ofCount?, Option.isSome_map]
      exact hduration
  · intro t
    rw [← isSome_toNanos?_iff_exists]
    exact ⟨exists_text_eq_dated_iff, text_eq_undated_iff, fun date => text_eq_dated_iff⟩

end Timestamp

end FrameTiming
