import FrameTiming.Calendar.Rfc3339
import FrameTiming.Proofs.CalendarOrder

/-!
# What the text of a point in time denotes

A point in time is written as date, time of day and nanoseconds.  The reader `ofRfc3339?` takes
such a text apart again; the calendar's own count, `unixSeconds`, says which second the fields
name.  Together they answer whether the text is right.

* `UnixTime.ofRfc3339?_rfc3339` — the fields read back are those of the point in time.
* `UnixTime.inYears_iff` — the years that a range of seconds reaches.
* `UnixTime.rfc3339_denotes` — the fields exist, count the seconds that were written, and two
  points in time never share a text.

**Years with a sign or more than four digits** need no case of their own: the year ends at the
hyphen behind it, whatever its width, and so does every other field at its own separator.
-/

namespace FrameTiming

namespace UnixTime

/-! ## Fields and years -/

lemma dayNumber_date (t : UnixTime) :
    t.dateTime.date.dayNumber = t.seconds.toInt / 86400 :=
  Date.dayNumber_ofDayNumber _

lemma valid_dateTime (t : UnixTime) : t.dateTime.Valid :=
  DateTime.valid_ofUnix _ _

lemma unixSeconds_dateTime (t : UnixTime) : t.dateTime.unixSeconds = t.seconds.toInt :=
  DateTime.unixSeconds_ofUnix _ _

/-- The point in time lies between the start of year `first` and the end of year `last`. -/
def InYears (first last : ℤ) (t : UnixTime) : Prop :=
  86400 * Date.daysBeforeYear first ≤ t.seconds.toInt ∧
    t.seconds.toInt < 86400 * Date.daysBeforeYear (last + 1)

instance (first last : ℤ) (t : UnixTime) : Decidable (t.InYears first last) :=
  inferInstanceAs (Decidable (_ ∧ _))

lemma inYears_iff {first last : ℤ} {t : UnixTime} :
    t.InYears first last ↔ first ≤ t.dateTime.date.year ∧ t.dateTime.date.year ≤ last := by
  have hdate := t.valid_dateTime.1
  have hfirst := Date.le_year_iff hdate first
  have hlast := Date.le_year_iff hdate (last + 1)
  rw [dayNumber_date] at hfirst hlast
  rw [InYears]
  omega

/-! ## Reading the text -/

lemma ofRfc3339?_rfc3339 (t : UnixTime) :
    DateTime.ofRfc3339? t.rfc3339.toList = some t.dateTime := by
  rw [rfc3339, String.toList_ofList, DateTime.ofRfc3339?_rfc3339 t.valid_dateTime]

-- a year before zero has a sign, and the fraction grows with the nanoseconds
example : (⟨-62288265601, 4294967295⟩ : UnixTime).rfc3339 =
    "-004-02-29T23:59:59.4294967295Z" := by
  decide

lemma dateTime_inj {t u : UnixTime} : t.dateTime = u.dateTime ↔ t = u := by
  refine ⟨fun h => ?_, fun h => h ▸ rfl⟩
  have hseconds := congrArg DateTime.unixSeconds h
  have hnanos : t.nanoseconds.toNat = u.nanoseconds.toNat := congrArg DateTime.nanosecond h
  rw [unixSeconds_dateTime, unixSeconds_dateTime, Int64.toInt_inj] at hseconds
  exact UnixTime.ext hseconds (UInt32.toNat_inj.1 hnanos)

/-- **Different points in time have different texts.** -/
lemma rfc3339_inj {t u : UnixTime} : t.rfc3339 = u.rfc3339 ↔ t = u := by
  refine ⟨fun h => ?_, fun h => h ▸ rfl⟩
  have hread := congrArg (fun text : String => DateTime.ofRfc3339? text.toList) h
  simp only [ofRfc3339?_rfc3339, Option.some.injEq] at hread
  exact dateTime_inj.1 hread

/-- **The text denotes the point in time.**  For seconds in the years -9999 to 32767 and any
number of nanoseconds, the text is that of a date and a time of day which exist; read back, they
count exactly the seconds that were written, and the fraction reads as the nanoseconds.  Hence
two points in time never have the same text. -/
theorem rfc3339_denotes :
    (∀ t : UnixTime, t.InYears (-9999) 32767 → ∃ f : DateTime,
      t.rfc3339 = String.ofList f.rfc3339 ∧
      DateTime.ofRfc3339? t.rfc3339.toList = some f ∧
      f.Valid ∧ (-9999 ≤ f.date.year ∧ f.date.year ≤ 32767) ∧
      86400 * f.date.dayNumber + 3600 * f.hour + 60 * f.minute + f.second = t.seconds.toInt ∧
      f.nanosecond = t.nanoseconds.toNat) ∧
    (∀ t u : UnixTime, t.InYears (-9999) 32767 → u.InYears (-9999) 32767 →
      (t.rfc3339 = u.rfc3339 ↔ t = u)) := by
  refine ⟨fun t ht => ?_, fun t u _ _ => rfc3339_inj⟩
  exact ⟨t.dateTime, rfl, t.ofRfc3339?_rfc3339, t.valid_dateTime, inYears_iff.1 ht,
    t.unixSeconds_dateTime, rfl⟩

/-- The last second of a leap day before year zero, with more nanoseconds than a second has, and
the last second of the last year: both have the text they should, and the texts differ. -/
theorem rfc3339_denotes_leap_day :
    (⟨-62288265601, 4294967295⟩ : UnixTime).InYears (-9999) 32767 ∧
    (⟨971890963199, 0⟩ : UnixTime).InYears (-9999) 32767 ∧
    (∃ f : DateTime, DateTime.ofRfc3339?
        (⟨-62288265601, 4294967295⟩ : UnixTime).rfc3339.toList = some f ∧
      f.Valid ∧ f.nanosecond = 4294967295 ∧
      86400 * f.date.dayNumber + 3600 * f.hour + 60 * f.minute + f.second = -62288265601) ∧
    (⟨-62288265601, 4294967295⟩ : UnixTime).rfc3339 ≠ (⟨971890963199, 0⟩ : UnixTime).rfc3339 := by
  have ht : (⟨-62288265601, 4294967295⟩ : UnixTime).InYears (-9999) 32767 := by decide
  have hu : (⟨971890963199, 0⟩ : UnixTime).InYears (-9999) 32767 := by decide
  obtain ⟨f, -, hread, hvalid, -, hseconds, hnanos⟩ := rfc3339_denotes.1 _ ht
  refine ⟨ht, hu, ⟨f, hread, hvalid, hnanos, hseconds⟩, ?_⟩
  exact mt (rfc3339_denotes.2 _ _ ht hu).1 (by decide)

end UnixTime

end FrameTiming
