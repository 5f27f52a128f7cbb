import FrameTiming.Decimal
import FrameTiming.Rate

/-!
# Durations

A duration is a signed count of one timebase's units.  The timebase is part of the type, so
nanoseconds and ticks cannot be mixed: going from one to the other is an explicit conversion.

* Arithmetic — `add?`, `sub?`, `neg?`, `mul?`, `div?`, `rem?` and `ratio?` are exact or refuse.
* Conversion — `toTicks` always succeeds, because a tick is longer than a nanosecond;
  `toNanos?` refuses what does not fit.
* Larger and smaller units — `milliseconds` and `seconds` of a tick count; `ofMilliseconds` and
  `ofSeconds` of any 32-bit number, `ofMinutes?` and `ofHours?` of those that fit.
* `text` — the duration as it appears in a log.
-/

namespace FrameTiming

/-- A length of time, counted in units of the timebase `b`. -/
@[ext] structure Duration (b : Timebase) where
  /-- How many units. -/
  count : Int64
deriving DecidableEq, Repr

namespace Duration

variable {b : Timebase}

/-- The number of units as an integer. -/
def toInt (d : Duration b) : Int := d.count.toInt

theorem fits (d : Duration b) : Fits d.toInt := fits_toInt d.count

/-- A duration is decided by its number of units. -/
theorem toInt_inj {d e : Duration b} : d.toInt = e.toInt ↔ d = e := by
  rw [toInt, toInt, Int64.toInt_inj, Duration.ext_iff]

/-- The duration of an integer that fits. -/
theorem exists_toInt_eq {n : Int} (h : Fits n) : ∃ d : Duration b, d.toInt = n :=
  ⟨⟨Int64.ofInt n⟩, Word.toInt_ofInt h⟩

/-- The duration of no units, which is also the default. -/
instance : Zero (Duration b) := ⟨⟨0⟩⟩

instance : Inhabited (Duration b) := ⟨0⟩

@[simp] theorem toInt_zero : (0 : Duration b).toInt = 0 := rfl

instance : LT (Duration b) := ⟨fun d e => d.count < e.count⟩

instance : LE (Duration b) := ⟨fun d e => d.count ≤ e.count⟩

instance (d e : Duration b) : Decidable (d < e) :=
  inferInstanceAs (Decidable (d.count < e.count))

instance (d e : Duration b) : Decidable (d ≤ e) :=
  inferInstanceAs (Decidable (d.count ≤ e.count))

theorem lt_iff_toInt_lt {d e : Duration b} : d < e ↔ d.toInt < e.toInt :=
  Int64.lt_iff_toInt_lt

theorem le_iff_toInt_le {d e : Duration b} : d ≤ e ↔ d.toInt ≤ e.toInt :=
  Int64.le_iff_toInt_le

def isZero (d : Duration b) : Bool := d == 0

/-- Whether the duration points backwards. -/
def isNegative (d : Duration b) : Bool := decide (d < 0)

/-- The duration itself when it does not point backwards, for users who count forward only. -/
def forward? (d : Duration b) : Option (Duration b) :=
  if d.isNegative then none else some d

@[simp] theorem isZero_iff {d : Duration b} : d.isZero = true ↔ d = 0 := beq_iff_eq

@[simp] theorem isNegative_iff {d : Duration b} : d.isNegative = true ↔ d.toInt < 0 := by
  rw [isNegative, decide_eq_true_iff, lt_iff_toInt_lt, toInt_zero]

theorem forward?_eq_some_iff {d e : Duration b} : d.forward? = some e ↔ 0 ≤ d.toInt ∧ d = e := by
  by_cases h : d.toInt < 0
  · simp [forward?, h, Int.not_le.2 h]
  · simp [forward?, h, Int.not_lt.1 h]

/-! ## Arithmetic -/

/-- The duration of a checked count. -/
def ofCount? (count : Option Int64) : Option (Duration b) := count.map Duration.mk

def add? (d e : Duration b) : Option (Duration b) := ofCount? (Word.add? d.count e.count)

def sub? (d e : Duration b) : Option (Duration b) := ofCount? (Word.sub? d.count e.count)

/-- The same length in the other direction. -/
def neg? (d : Duration b) : Option (Duration b) := ofCount? (Word.neg? d.count)

/-- A duration repeated `k` times. -/
def mul? (d : Duration b) (k : Int64) : Option (Duration b) := ofCount? (Word.mul? d.count k)

/-- A duration divided into `k` parts, truncated toward zero. -/
def div? (d : Duration b) (k : Int64) : Option (Duration b) := ofCount? (Word.div? d.count k)

/-- How many times `e` goes into `d`, truncated toward zero. -/
def ratio? (d e : Duration b) : Option Int64 := Word.div? d.count e.count

/-- What is left of `d` after `e` has been taken out of it as often as it goes. -/
def rem? (d e : Duration b) : Option (Duration b) := ofCount? (Word.rem? d.count e.count)

/-- A checked duration is known by its checked count. -/
theorem ofCount?_eq_some_iff {count : Option Int64} {d : Duration b} :
    ofCount? count = some d ↔ count = some d.count := by
  cases count <;> simp [ofCount?, Duration.ext_iff]

/-- The count of a checked duration is the checked count. -/
@[simp] theorem map_count_ofCount? (count? : Option Int64) :
    (ofCount? count? : Option (Duration b)).map count = count? := by
  cases count? <;> rfl

@[simp] theorem ofCount?_eq_none_iff {count : Option Int64} :
    (ofCount? count : Option (Duration b)) = none ↔ count = none := by
  simp [ofCount?]

theorem add?_eq_some_iff {d e f : Duration b} :
    d.add? e = some f ↔ f.toInt = d.toInt + e.toInt := by
  rw [add?, ofCount?_eq_some_iff, Word.add?_eq_some_iff]; rfl

theorem sub?_eq_some_iff {d e f : Duration b} :
    d.sub? e = some f ↔ f.toInt = d.toInt - e.toInt := by
  rw [sub?, ofCount?_eq_some_iff, Word.sub?_eq_some_iff]; rfl

theorem neg?_eq_some_iff {d f : Duration b} : d.neg? = some f ↔ f.toInt = -d.toInt := by
  rw [neg?, ofCount?_eq_some_iff, Word.neg?_eq_some_iff]; rfl

theorem mul?_eq_some_iff {d f : Duration b} {k : Int64} :
    d.mul? k = some f ↔ f.toInt = d.toInt * k.toInt := by
  rw [mul?, ofCount?_eq_some_iff, Word.mul?_eq_some_iff]; rfl

theorem div?_eq_some_iff {d f : Duration b} {k : Int64} :
    d.div? k = some f ↔ ¬ Word.Indivisible d.count k ∧ f.toInt = d.toInt.tdiv k.toInt := by
  rw [div?, ofCount?_eq_some_iff, Word.div?_eq_some_iff]; rfl

theorem rem?_eq_some_iff {d e f : Duration b} :
    d.rem? e = some f ↔ ¬ Word.Indivisible d.count e.count ∧ f.toInt = d.toInt.tmod e.toInt := by
  rw [rem?, ofCount?_eq_some_iff, Word.rem?_eq_some_iff]; rfl

theorem ratio?_eq_some_iff {d e : Duration b} {q : Int64} :
    d.ratio? e = some q ↔
      ¬ Word.Indivisible d.count e.count ∧ q.toInt = d.toInt.tdiv e.toInt :=
  Word.div?_eq_some_iff

theorem ratio?_eq_none_iff {d e : Duration b} :
    d.ratio? e = none ↔ Word.Indivisible d.count e.count := by
  simp [ratio?, Word.div?]

theorem rem?_eq_none_iff {d e : Duration b} :
    d.rem? e = none ↔ Word.Indivisible d.count e.count := by
  simp [rem?, Word.rem?]

/-! ## Conversion between timebases -/

/-- A nanosecond duration in ticks, truncated toward zero. -/
def toTicks (d : Duration .nanosecond) : Duration .tick :=
  ⟨Rate.fromNanos d.count ticksPerSecond⟩

/-- The nanoseconds of a tick duration, truncated toward zero. -/
def nanoseconds? (d : Duration .tick) : Option Int64 := Rate.toNanos? d.count ticksPerSecond

/-- A tick duration in nanoseconds, truncated toward zero. -/
def toNanos? (d : Duration .tick) : Option (Duration .nanosecond) := ofCount? d.nanoseconds?

/-- A count of nanoseconds in ticks is exact. -/
theorem toInt_fromNanos_ticksPerSecond (n : Int64) :
    (Rate.fromNanos n ticksPerSecond).toInt = Rate.exact n.toInt 1000000000 90000 :=
  Rate.toInt_convert (by decide) (by decide) (by decide)

/-- **The conversion to ticks is exact.** -/
theorem toInt_toTicks (d : Duration .nanosecond) :
    d.toTicks.toInt = Rate.exact d.toInt 1000000000 90000 :=
  toInt_fromNanos_ticksPerSecond d.count

/-- A count of ticks in nanoseconds is exact. -/
theorem toNanos?_ticksPerSecond (n : Int64) :
    Rate.toNanos? n ticksPerSecond = Word.ofInt? (Rate.exact n.toInt 90000 1000000000) :=
  Rate.convert?_eq_ofInt? (by decide) (by decide)

/-- **The conversion to nanoseconds is exact.** -/
theorem toNanos?_eq_some_iff {d : Duration .tick} {e : Duration .nanosecond} :
    d.toNanos? = some e ↔ e.toInt = Rate.exact d.toInt 90000 1000000000 := by
  rw [toNanos?, ofCount?_eq_some_iff, nanoseconds?, toNanos?_ticksPerSecond,
    Word.ofInt?_eq_some_iff]
  rfl

/-! ## Other units -/

/-- The whole milliseconds of a tick duration, truncated toward zero. -/
def milliseconds (d : Duration .tick) : Int64 := Rate.convert d.count ticksPerSecond 1000

/-- **Milliseconds are exact.** -/
theorem toInt_milliseconds (d : Duration .tick) :
    d.milliseconds.toInt = Rate.exact d.toInt 90000 1000 :=
  Rate.toInt_convert (by decide) (by decide) (by decide)

/-- A tick duration in seconds, as a binary64 number: the whole seconds and the remaining
fraction are converted apart, so that both stay exact for as long as they can. -/
def seconds (d : Duration .tick) : Float :=
  (d.count / ticksPerSecond).toFloat
    + (d.count % ticksPerSecond).toFloat / ticksPerSecond.toFloat

def ofMilliseconds (n : UInt32) : Duration .nanosecond := ⟨Word.ofCount n * nanosPerMillisecond⟩

def ofSeconds (n : UInt32) : Duration .nanosecond := ⟨Word.ofCount n * nanosPerSecond⟩

/-- A 32-bit number of units is multiplied exactly where the product fits. -/
theorem toInt_ofCount_mul {n : UInt32} {unit : Int64} (h : Fits (n.toNat * unit.toInt)) :
    (Word.ofCount n * unit).toInt = n.toNat * unit.toInt := by
  rw [← Word.toInt_ofCount] at h ⊢
  exact Word.toInt_mul h

/-- Every 32-bit number of milliseconds fits. -/
theorem toInt_ofMilliseconds (n : UInt32) : (ofMilliseconds n).toInt = n.toNat * 1000000 := by
  have hn := n.toNat_lt
  rw [← toInt_nanosPerMillisecond]
  exact toInt_ofCount_mul (by unfold Fits; rw [toInt_nanosPerMillisecond]; omega)

/-- Every 32-bit number of seconds fits. -/
theorem toInt_ofSeconds (n : UInt32) : (ofSeconds n).toInt = n.toNat * 1000000000 := by
  have hn := n.toNat_lt
  rw [← toInt_nanosPerSecond]
  exact toInt_ofCount_mul (by unfold Fits; rw [toInt_nanosPerSecond]; omega)

/-- A number of units of the given length, refused when it does not fit. -/
def ofUnits? (n : UInt32) (unit : Int64) : Option (Duration .nanosecond) :=
  ofCount? (Word.mul? (Word.ofCount n) unit)

/-- A number of minutes; the largest do not fit. -/
def ofMinutes? (n : UInt32) : Option (Duration .nanosecond) := ofUnits? n nanosPerMinute

/-- A number of hours; the largest do not fit. -/
def ofHours? (n : UInt32) : Option (Duration .nanosecond) := ofUnits? n nanosPerHour

/-- **A number of units is exact.** -/
theorem ofUnits?_eq_some_iff {n : UInt32} {unit : Int64} {d : Duration .nanosecond} :
    ofUnits? n unit = some d ↔ d.toInt = n.toNat * unit.toInt := by
  rw [ofUnits?, ofCount?_eq_some_iff, Word.mul?_eq_some_iff, Word.toInt_ofCount]; rfl

theorem ofUnits?_eq_none_iff {n : UInt32} {unit : Int64} :
    ofUnits? n unit = none ↔ ¬ Fits (n.toNat * unit.toInt) := by
  rw [ofUnits?, ofCount?_eq_none_iff, Word.mul?_eq_ofInt?, Word.ofInt?_eq_none_iff,
    Word.toInt_ofCount]

theorem ofMinutes?_eq_some_iff {n : UInt32} {d : Duration .nanosecond} :
    ofMinutes? n = some d ↔ d.toInt = n.toNat * 60000000000 :=
  ofUnits?_eq_some_iff

theorem ofHours?_eq_some_iff {n : UInt32} {d : Duration .nanosecond} :
    ofHours? n = some d ↔ d.toInt = n.toNat * 3600000000000 :=
  ofUnits?_eq_some_iff

/-- The first minutes that do not fit come after 292 years. -/
theorem ofMinutes?_eq_none_iff {n : UInt32} : ofMinutes? n = none ↔ 153722867 < n.toNat := by
  rw [ofMinutes?, ofUnits?_eq_none_iff, toInt_nanosPerMinute, Fits]
  omega

/-- The same for hours. -/
theorem ofHours?_eq_none_iff {n : UInt32} : ofHours? n = none ↔ 2562047 < n.toNat := by
  rw [ofHours?, ofUnits?_eq_none_iff, toInt_nanosPerHour, Fits]
  omega

/-! ## Text -/

/-- How a count of the timebase's units is marked. -/
def unitMark : Timebase → String
  | .nanosecond => "ns"
  | .tick => " ticks"

/-- The duration as it appears in a log: the count and its unit. -/
def text (d : Duration b) : String :=
  String.ofList (Decimal.integer d.toInt) ++ unitMark b

end Duration

end FrameTiming
