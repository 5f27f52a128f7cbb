/-!
# Decimal numerals

Numerals are lists of characters, so that their lengths and order can be reasoned about; they
become strings where a whole text is put together.

* `natural`, `integer` — the shortest numeral.
* `padded`, `signedPadded` — filled with zeros to a least width.  The sign counts as one place,
  as in `-001`.
* `takeNatural?`, `takeInteger?` — read a numeral off the front of a text.

Reading undoes writing, whatever the width: `takeNatural?_padded`, `takeInteger?_signedPadded`,
`takeInteger?_integer`.
-/

namespace FrameTiming.Decimal

/-! ## Writing -/

/-- The shortest numeral of a natural number. -/
def natural (n : Nat) : List Char := Nat.toDigits 10 n

/-- The numeral of a natural number, filled with zeros to at least `width` digits. -/
def padded (width n : Nat) : List Char := (natural n).leftpad width '0'

/-- A numeral with a minus sign in front when the number is negative. -/
def integer (n : Int) : List Char :=
  if n < 0 then '-' :: natural n.natAbs else natural n.natAbs

/-- The numeral of an integer, filled with zeros to at least `width` places; a minus sign takes
one of them. -/
def signedPadded (width : Nat) (n : Int) : List Char :=
  if n < 0 then '-' :: padded (width - 1) n.natAbs else padded width n.natAbs

theorem isDigit_of_mem_padded {width n : Nat} {c : Char} (h : c ∈ padded width n) :
    c.isDigit = true := by
  rcases List.mem_append.1 h with h | h
  · rw [List.eq_of_mem_replicate h]; rfl
  · exact Nat.isDigit_of_mem_toDigits (by decide) (by decide) h

theorem padded_ne_nil (width n : Nat) : padded width n ≠ [] := by
  intro h
  exact Nat.toDigits_ne_nil (List.append_eq_nil_iff.1 h).2

/-- A number below `10 ^ width` takes exactly `width` digits. -/
theorem length_padded {width n : Nat} (hw : 0 < width) (hn : n < Nat.pow 10 width) :
    (padded width n).length = width := by
  rw [padded, List.length_leftpad, natural]
  exact Nat.max_eq_left ((Nat.length_toDigits_le_iff (by decide) hw).2 hn)

/-! ## Reading -/

/-- Reads the digits at the front of a text, refused when there is none. -/
def takeNatural? (cs : List Char) : Option (Nat × List Char) :=
  match cs.takeWhile Char.isDigit with
  | [] => none
  | ds => some (Nat.ofDigitChars 10 ds 0, cs.dropWhile Char.isDigit)

/-- Reads a numeral with an optional minus sign at the front of a text. -/
def takeInteger? : List Char → Option (Int × List Char)
  | '-' :: cs => (takeNatural? cs).map fun (n, rest) => (-(n : Int), rest)
  | cs => (takeNatural? cs).map fun (n, rest) => ((n : Int), rest)

/-- Leading zeros do not change a number. -/
theorem ofDigitChars_padded (width n : Nat) : Nat.ofDigitChars 10 (padded width n) 0 = n := by
  have hzero : ∀ k, Nat.ofDigitChars 10 (List.replicate k '0') 0 = 0 := by
    intro k
    induction k with
    | zero => rfl
    | succ k ih => rw [List.replicate_succ, Nat.ofDigitChars_cons]; exact ih
  rw [padded, List.leftpad, Nat.ofDigitChars_append, hzero]
  exact Nat.ofDigitChars_toDigits (by decide) (by decide)

/-- Digits end where a text goes on with something else, or not at all. -/
def Stops (rest : List Char) : Prop := ∀ c ∈ rest.head?, c.isDigit = false

theorem stops_cons {c : Char} (h : c.isDigit = false) (rest : List Char) : Stops (c :: rest) := by
  simpa [Stops] using h

theorem takeWhile_isDigit_append {ds rest : List Char} (hds : ∀ c ∈ ds, c.isDigit = true)
    (hrest : Stops rest) :
    (ds ++ rest).takeWhile Char.isDigit = ds ∧ (ds ++ rest).dropWhile Char.isDigit = rest := by
  rw [List.takeWhile_append_of_pos hds, List.dropWhile_append_of_pos hds]
  cases rest with
  | nil => simp
  | cons c rest => simp [hrest c rfl]

/-- **Reading undoes writing** for natural numbers, at every width. -/
theorem takeNatural?_padded (width n : Nat) {rest : List Char} (hrest : Stops rest) :
    takeNatural? (padded width n ++ rest) = some (n, rest) := by
  have hdigits : ∀ c ∈ padded width n, c.isDigit = true := fun _ => isDigit_of_mem_padded
  obtain ⟨htake, hdrop⟩ := takeWhile_isDigit_append hdigits hrest
  unfold takeNatural?
  rw [htake, hdrop]
  split
  · next h => exact absurd h (padded_ne_nil width n)
  · rw [ofDigitChars_padded]

/-- **Reading undoes writing** for integers, at every width. -/
theorem takeInteger?_signedPadded (width : Nat) (n : Int) {rest : List Char}
    (hrest : Stops rest) :
    takeInteger? (signedPadded width n ++ rest) = some (n, rest) := by
  unfold signedPadded
  split
  · next hn =>
    simp only [List.cons_append, takeInteger?, takeNatural?_padded _ _ hrest, Option.map_some]
    congr 2
    omega
  · next hn =>
    have hcs : ∀ cs, padded width n.natAbs ++ rest ≠ '-' :: cs := by
      intro cs h
      obtain ⟨c, ds, hp⟩ := List.exists_cons_of_ne_nil (padded_ne_nil width n.natAbs)
      rw [hp] at h
      have hc : c.isDigit = true := isDigit_of_mem_padded (hp ▸ List.mem_cons_self)
      rw [(List.cons.inj h).1] at hc
      exact absurd hc (by decide)
    rw [takeInteger?]
    · rw [takeNatural?_padded _ _ hrest]
      simp only [Option.map_some]
      congr 2
      omega
    · exact hcs

/-- The shortest numeral is the one that needs no width. -/
theorem integer_eq_signedPadded (n : Int) : integer n = signedPadded 0 n := by
  simp [integer, signedPadded, padded, List.leftpad]

/-- **Reading undoes writing** for the shortest numerals. -/
theorem takeInteger?_integer (n : Int) {rest : List Char} (hrest : Stops rest) :
    takeInteger? (integer n ++ rest) = some (n, rest) := by
  rw [integer_eq_signedPadded, takeInteger?_signedPadded 0 n hrest]

end FrameTiming.Decimal
