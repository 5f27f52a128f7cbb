import FrameTiming.Proofs.CalendarText
import FrameTiming.Proofs.SecondSplit
import FrameTiming.Timestamp.Text
import Mathlib.Data.Char
import Mathlib.Data.List.Forall2
import Mathlib.Data.List.Lex
import Mathlib.Tactic.Tauto

/-!
# Timestamps sort by their texts

A log is sorted by comparing lines of text, character by character.  For nanosecond timestamps
that is the same as sorting by time, on both sides of the epoch.  The argument goes down through
the layers of the text.

* **Numerals.**  `Decimal.padded_lt_iff`: numerals of the same length are ordered as the numbers
  they denote.
* **Fields.**  `Decimal.padded_append_lt_iff`: a text that starts with such a numeral is decided
  by it, and by what follows when the numbers agree.
* **The whole text.**  `DateTime.rfc3339_lt_iff`: texts whose fields have their least width are
  ordered as the fields are.  That width is what nanosecond timestamps need, since they reach from
  1677 to 2262; texts of years with a sign or a fifth digit do not sort.
* **Time.**  `DateTime.fields_lt_iff` of the calendar, and `Timestamp.fields_unixTime_lt_iff` for
  the seconds of a timestamp and the nanoseconds they leave.
-/

namespace FrameTiming

/-! ## Texts that start with a field -/

/-- Texts whose first parts have one length are decided by those parts, if these differ. -/
lemma append_lt_append_iff {a b c d : List Char} (h : a.length = b.length) :
    a ++ c < b ++ d ↔ a < b ∨ a = b ∧ c < d := by
  induction a generalizing b with
  | nil =>
    rw [List.length_nil] at h
    simp [List.eq_nil_of_length_eq_zero h.symm]
  | cons x a ih =>
    cases b with
    | nil => cases h
    | cons y b =>
      simp only [List.cons_append, List.cons_lt_cons_iff, List.cons.injEq, ih (Nat.succ.inj h)]
      tauto

namespace Decimal

/-- Reading digits from the front keeps the order of what has been read. -/
lemma ofDigitChars_lt {ds es : List Char} (hlen : ds.length = es.length)
    (hds : ∀ c ∈ ds, c.isDigit = true) (hes : ∀ c ∈ es, c.isDigit = true) {a b : ℕ}
    (h : a < b ∨ a = b ∧ ds < es) : Nat.ofDigitChars 10 ds a < Nat.ofDigitChars 10 es b := by
  induction ds generalizing es a b with
  | nil =>
    obtain rfl := List.eq_nil_of_length_eq_zero hlen.symm
    simpa using h
  | cons x ds ih =>
    cases es with
    | nil => cases hlen
    | cons y es =>
      have hx : 48 ≤ x.toNat ∧ x.toNat ≤ 57 :=
        Char.isDigit_iff_toNat.1 (hds x List.mem_cons_self)
      have hy : 48 ≤ y.toNat ∧ y.toNat ≤ 57 :=
        Char.isDigit_iff_toNat.1 (hes y List.mem_cons_self)
      rw [Nat.ofDigitChars_cons, Nat.ofDigitChars_cons, show '0'.toNat = 48 from rfl]
      refine ih (Nat.succ.inj hlen) (fun c hc => hds c (List.mem_cons_of_mem _ hc))
        (fun c hc => hes c (List.mem_cons_of_mem _ hc)) ?_
      simp only [List.cons_lt_cons_iff, Char.lt_def, UInt32.lt_iff_toNat_lt] at h
      rcases h with hlt | ⟨rfl, hlt | ⟨rfl, hrest⟩⟩
      · left; omega
      · left
        have hlt' : x.toNat < y.toNat := hlt
        omega
      · exact Or.inr ⟨rfl, hrest⟩

lemma padded_inj {w m n : ℕ} : padded w m = padded w n ↔ m = n := by
  refine ⟨fun h => ?_, fun h => h ▸ rfl⟩
  have hread := congrArg (fun ds => Nat.ofDigitChars 10 ds 0) h
  simpa only [ofDigitChars_padded] using hread

/-- **Numerals of the same length are ordered as the numbers they denote.** -/
lemma padded_lt_iff {w m n : ℕ} (h : (padded w m).length = (padded w n).length) :
    padded w m < padded w n ↔ m < n := by
  have hlt : ∀ {i j : ℕ}, (padded w i).length = (padded w j).length →
      padded w i < padded w j → i < j := by
    intro i j hlen hij
    have hread := ofDigitChars_lt hlen (fun _ => isDigit_of_mem_padded)
      (fun _ => isDigit_of_mem_padded) (Or.inr ⟨rfl, hij⟩ : 0 < 0 ∨ 0 = 0 ∧ _)
    rwa [ofDigitChars_padded, ofDigitChars_padded] at hread
  refine ⟨hlt h, fun hmn => ?_⟩
  rcases lt_trichotomy (padded w m) (padded w n) with hm | heq | hn
  · exact hm
  · exact absurd (padded_inj.1 heq) hmn.ne
  · exact absurd (hlt h.symm hn) hmn.asymm

lemma padded_append_lt_iff {w m n : ℕ} {separator : Char} {r s : List Char}
    (h : (padded w m).length = (padded w n).length) :
    padded w m ++ separator :: r < padded w n ++ separator :: s ↔ m < n ∨ m = n ∧ r < s := by
  rw [append_lt_append_iff h, padded_lt_iff h, padded_inj, List.cons_lt_cons_iff]
  simp

/-! ## Shapes -/

/-- A text has the shape of a template when it has a digit wherever the template has a zero, and
the template's own character everywhere else. -/
def HasShape (template text : List Char) : Prop :=
  List.Forall₂ (fun place c => if place = '0' then c.isDigit = true else c = place) template text

lemma hasShape_padded {w n : ℕ} (hlen : (padded w n).length = w) :
    HasShape (List.replicate w '0') (padded w n) := by
  refine List.forall₂_iff_get.2 ⟨by rw [List.length_replicate, hlen], fun i hi hi' => ?_⟩
  simpa using isDigit_of_mem_padded (List.getElem_mem hi')

lemma hasShape_padded_append {w n : ℕ} {separator : Char} {template rest : List Char}
    (hlen : (padded w n).length = w) (hsep : separator ≠ '0') (hrest : HasShape template rest) :
    HasShape (List.replicate w '0' ++ separator :: template) (padded w n ++ separator :: rest) :=
  List.rel_append (hasShape_padded hlen) (List.Forall₂.cons (by simp [hsep]) hrest)

end Decimal

/-! ## The text of a point in time -/

namespace DateTime

open Decimal

/-- Every field takes exactly the places that are kept for it. -/
structure FixedWidth (t : DateTime) : Prop where
  valid : t.Valid
  year_nonneg : 0 ≤ t.date.year
  year_lt : t.date.year < 10000
  nanosecond_lt : t.nanosecond < 1000000000

namespace FixedWidth

variable {t u : DateTime}

lemma length_year (h : t.FixedWidth) : (padded 4 t.date.year.natAbs).length = 4 := by
  have hnonneg := h.year_nonneg
  have hlt := h.year_lt
  exact length_padded (by decide) (show t.date.year.natAbs < 10000 by omega)

lemma length_two {n : ℕ} (h : n < 100) : (padded 2 n).length = 2 :=
  length_padded (by decide) h

lemma length_month (h : t.FixedWidth) : (padded 2 t.date.month).length = 2 := by
  obtain ⟨-, hmonth, -⟩ := h.valid.1
  exact length_two (by omega)

lemma length_day (h : t.FixedWidth) : (padded 2 t.date.day).length = 2 := by
  obtain ⟨-, -, -, hday⟩ := h.valid.1
  exact length_two (hday.trans_lt (Nat.lt_of_le_of_lt (Date.daysInMonth_le _ _) (by decide)))

lemma length_hour (h : t.FixedWidth) : (padded 2 t.hour).length = 2 :=
  length_two (h.valid.2.1.trans (by decide))

lemma length_minute (h : t.FixedWidth) : (padded 2 t.minute).length = 2 :=
  length_two (h.valid.2.2.1.trans (by decide))

lemma length_second (h : t.FixedWidth) : (padded 2 t.second).length = 2 :=
  length_two (h.valid.2.2.2.trans (by decide))

lemma length_nanosecond (h : t.FixedWidth) : (padded 9 t.nanosecond).length = 9 :=
  length_padded (by decide) h.nanosecond_lt

/-- A year of four digits is written without a sign. -/
lemma signedPadded_year (h : t.FixedWidth) :
    signedPadded 4 t.date.year = padded 4 t.date.year.natAbs :=
  if_neg (not_lt.2 h.year_nonneg)

end FixedWidth

/-- **Texts of fixed width are ordered as their fields are.** -/
theorem rfc3339_lt_iff {t u : DateTime} (ht : t.FixedWidth) (hu : u.FixedWidth) :
    t.rfc3339 < u.rfc3339 ↔ t.fields < u.fields := by
  have hyear : t.date.year.natAbs < u.date.year.natAbs ↔ t.date.year < u.date.year := by
    have := ht.year_nonneg
    have := hu.year_nonneg
    omega
  have hyear' : t.date.year.natAbs = u.date.year.natAbs ↔ t.date.year = u.date.year := by
    have := ht.year_nonneg
    have := hu.year_nonneg
    omega
  rw [rfc3339, rfc3339, ht.signedPadded_year, hu.signedPadded_year,
    padded_append_lt_iff (ht.length_year.trans hu.length_year.symm),
    padded_append_lt_iff (ht.length_month.trans hu.length_month.symm),
    padded_append_lt_iff (ht.length_day.trans hu.length_day.symm),
    padded_append_lt_iff (ht.length_hour.trans hu.length_hour.symm),
    padded_append_lt_iff (ht.length_minute.trans hu.length_minute.symm),
    padded_append_lt_iff (ht.length_second.trans hu.length_second.symm),
    padded_append_lt_iff (ht.length_nanosecond.trans hu.length_nanosecond.symm), hyear, hyear']
  simp only [fields, Prod.Lex.toLex_lt_toLex, Date.fields_inj, Date.ext_iff]
  simp only [Date.fields, Prod.Lex.toLex_lt_toLex, lt_self_iff_false, and_false, or_false,
    or_assoc, and_assoc, and_or_left]

/-- How a text of fixed width looks: zeros stand for digits. -/
def template : List Char := "0000-00-00T00:00:00.000000000Z".toList

lemma hasShape_rfc3339 {t : DateTime} (h : t.FixedWidth) : HasShape template t.rfc3339 := by
  rw [rfc3339, h.signedPadded_year]
  have hend : HasShape ['Z'] ['Z'] := List.Forall₂.cons (by simp) List.Forall₂.nil
  exact hasShape_padded_append h.length_year (by decide) <|
    hasShape_padded_append h.length_month (by decide) <|
    hasShape_padded_append h.length_day (by decide) <|
    hasShape_padded_append h.length_hour (by decide) <|
    hasShape_padded_append h.length_minute (by decide) <|
    hasShape_padded_append h.length_second (by decide) <|
    List.rel_append (hasShape_padded h.length_nanosecond) hend

end DateTime

/-! ## Nanosecond timestamps -/

namespace Timestamp

open Decimal

/-- Nanosecond timestamps reach from 1677 to 2262. -/
lemma inYears_unixTime (t : Timestamp .nanosecond) : t.unixTime.InYears 1677 2262 := by
  have hfits := fits_toInt t.count
  have hseconds := (UnixTime.toInt_ofNanos t.count).1
  have hfirst : 86400 * Date.daysBeforeYear 1677 = -9246096000 := by decide
  have hlast : 86400 * Date.daysBeforeYear (2262 + 1) = 9246182400 := by decide
  unfold Fits at hfits
  rw [UnixTime.InYears, hfirst, hlast, unixTime, hseconds]
  omega

lemma fixedWidth_dateTime (t : Timestamp .nanosecond) : t.unixTime.dateTime.FixedWidth := by
  obtain ⟨hfirst, hlast⟩ := UnixTime.inYears_iff.1 t.inYears_unixTime
  have hrest := (UnixTime.toInt_ofNanos t.count).2
  have hnanos : t.unixTime.dateTime.nanosecond = (UnixTime.ofNanos t.count).nanoseconds.toNat := rfl
  exact ⟨t.unixTime.valid_dateTime, by omega, by omega, by omega⟩

lemma fields_lt_iff {t u : Timestamp .nanosecond} :
    t.unixTime.dateTime.fields < u.unixTime.dateTime.fields ↔ t < u := by
  rw [DateTime.fields_lt_iff t.unixTime.valid_dateTime u.unixTime.valid_dateTime,
    UnixTime.unixSeconds_dateTime, UnixTime.unixSeconds_dateTime, ← fields_unixTime_lt_iff,
    UnixTime.fields_lt_iff]
  rfl

lemma hasShape_nanosText (t : Timestamp .nanosecond) :
    HasShape DateTime.template t.nanosText.toList := by
  rw [nanosText, UnixTime.rfc3339, String.toList_ofList]
  exact DateTime.hasShape_rfc3339 t.fixedWidth_dateTime

lemma nanosText_lt_iff {t u : Timestamp .nanosecond} : t.nanosText < u.nanosText ↔ t < u := by
  change t.nanosText.toList < u.nanosText.toList ↔ t < u
  rw [nanosText, nanosText, UnixTime.rfc3339, UnixTime.rfc3339, String.toList_ofList,
    String.toList_ofList, DateTime.rfc3339_lt_iff t.fixedWidth_dateTime u.fixedWidth_dateTime,
    fields_lt_iff]

lemma nanosText_inj {t u : Timestamp .nanosecond} : t.nanosText = u.nanosText ↔ t = u := by
  refine ⟨fun h => ?_, fun h => h ▸ rfl⟩
  have htu : ¬ t < u := fun hlt => by
    rw [← nanosText_lt_iff, h] at hlt
    exact String.lt_irrefl _ hlt
  have hut : ¬ u < t := fun hlt => by
    rw [← nanosText_lt_iff, h] at hlt
    exact String.lt_irrefl _ hlt
  rw [lt_iff_toInt_lt] at htu hut
  exact toInt_inj.1 (by omega)

/-- **Timestamps sort by their texts.**  Every nanosecond timestamp is written in 30 characters of
one shape, and one text comes before another, character by character, exactly when the one
timestamp is before the other.  In particular different timestamps have different texts. -/
theorem nanosText_sorts :
    (∀ t : Timestamp .nanosecond, t.nanosText.length = 30 ∧
      HasShape DateTime.template t.nanosText.toList) ∧
    (∀ t u : Timestamp .nanosecond, t.nanosText < u.nanosText ↔ t < u) ∧
    (∀ t u : Timestamp .nanosecond, t.nanosText = u.nanosText ↔ t = u) := by
  refine ⟨fun t => ?_, fun t u => nanosText_lt_iff, fun t u => nanosText_inj⟩
  have hlength := t.hasShape_nanosText.length_eq
  rw [String.length_toList] at hlength
  exact ⟨hlength.symm, t.hasShape_nanosText⟩

end Timestamp

end FrameTiming
