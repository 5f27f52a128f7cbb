import FrameTiming.Calendar.DateTime

/-!
# The text of a point in time

`DateTime.rfc3339` writes `2023-11-03T08:26:40.500000000Z`: the year in at least four places, a
minus sign counting as one, two digits for each other field, at least nine for the nanoseconds.
Years before 0 and after 9999 simply take the places they need.

`DateTime.ofRfc3339?` reads such a text back.  It splits at the separators, so fields of any
width are read, and accepts only points in time that exist.

Main statement: reading undoes writing, `ofRfc3339?_rfc3339`, for every point in time that
exists.  Hence different points in time never have the same text.
-/

namespace FrameTiming

namespace DateTime

/-! ## Writing -/

/-- The text of a point in time, as characters. -/
def rfc3339 (t : DateTime) : List Char :=
  Decimal.signedPadded 4 t.date.year ++ '-' ::
  (Decimal.padded 2 t.date.month ++ '-' ::
  (Decimal.padded 2 t.date.day ++ 'T' ::
  (Decimal.padded 2 t.hour ++ ':' ::
  (Decimal.padded 2 t.minute ++ ':' ::
  (Decimal.padded 2 t.second ++ '.' ::
  (Decimal.padded 9 t.nanosecond ++ ['Z']))))))

/-! ## Reading -/

/-- Reads a numeral and the separator that must follow it. -/
def field? (separator : Char) (cs : List Char) : Option (Nat × List Char) :=
  match Decimal.takeNatural? cs with
  | some (n, c :: rest) => if c = separator then some (n, rest) else none
  | _ => none

/-- Reads the year and the hyphen that must follow it. -/
def yearField? (cs : List Char) : Option (Int × List Char) :=
  match Decimal.takeInteger? cs with
  | some (n, '-' :: rest) => some (n, rest)
  | _ => none

/-- Reads a whole text, refused when it is not of the form written or names a point in time that
does not exist. -/
def ofRfc3339? (cs : List Char) : Option DateTime := do
  let (year, cs) ← yearField? cs
  let (month, cs) ← field? '-' cs
  let (day, cs) ← field? 'T' cs
  let (hour, cs) ← field? ':' cs
  let (minute, cs) ← field? ':' cs
  let (second, cs) ← field? '.' cs
  let (nanosecond, cs) ← field? 'Z' cs
  let t : DateTime := ⟨⟨year, month, day⟩, hour, minute, second, nanosecond⟩
  if cs = [] ∧ t.Valid then some t else none

/-! ## Reading undoes writing -/

theorem field?_padded (separator : Char) (h : separator.isDigit = false) (width n : Nat)
    (rest : List Char) :
    field? separator (Decimal.padded width n ++ separator :: rest) = some (n, rest) := by
  simp [field?, Decimal.takeNatural?_padded width n (Decimal.stops_cons h rest)]

theorem yearField?_signedPadded (width : Nat) (n : Int) (rest : List Char) :
    yearField? (Decimal.signedPadded width n ++ '-' :: rest) = some (n, rest) := by
  have hstops := Decimal.stops_cons (c := '-') rfl rest
  simp [yearField?, Decimal.takeInteger?_signedPadded width n hstops]

/-- **Reading undoes writing.** -/
theorem ofRfc3339?_rfc3339 {t : DateTime} (h : t.Valid) : ofRfc3339? t.rfc3339 = some t := by
  simp only [ofRfc3339?, rfc3339, yearField?_signedPadded, Option.bind_eq_bind, Option.bind_some,
    field?_padded '-' rfl, field?_padded 'T' rfl, field?_padded ':' rfl, field?_padded '.' rfl,
    field?_padded 'Z' rfl]
  exact if_pos ⟨trivial, h⟩

end DateTime

/-- The text of a point in time. -/
def UnixTime.rfc3339 (t : UnixTime) : String := String.ofList t.dateTime.rfc3339

end FrameTiming
