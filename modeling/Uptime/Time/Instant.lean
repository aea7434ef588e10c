import Uptime.Text.Decimal
import Uptime.Time.Span

/-!
# Instants

Points on the line of universal time, exact to the nanosecond, and their two written forms:
with whole seconds in messages, and with milliseconds in records.

## Main definitions

* `Instant`: an instant, as nanoseconds since the epoch of 1970.
* `Instant.ofMillis`, `Instant.toMillis`: the conversion from and to stored milliseconds.
* `Instant.Representable`, `Instant.minus?`: the range of the calendar.
* `CivilDate`, `civilDate`: the Gregorian date of a day.
* `Instant.text`, `Instant.preciseText`: the written forms.
-/

namespace Uptime

/-- An instant of universal time. -/
structure Instant where
  /-- Nanoseconds since the beginning of 1970. -/
  nanos : Int
  deriving DecidableEq, Repr, Inhabited

namespace Instant

instance : LE Instant := ⟨fun a b => a.nanos ≤ b.nanos⟩

instance : LT Instant := ⟨fun a b => a.nanos < b.nanos⟩

instance (a b : Instant) : Decidable (a ≤ b) :=
  inferInstanceAs (Decidable (a.nanos ≤ b.nanos))

instance (a b : Instant) : Decidable (a < b) :=
  inferInstanceAs (Decidable (a.nanos < b.nanos))

theorem le_def {a b : Instant} : a ≤ b ↔ a.nanos ≤ b.nanos := Iff.rfl

theorem lt_def {a b : Instant} : a < b ↔ a.nanos < b.nanos := Iff.rfl

/-- The span from one instant to another. -/
instance : HSub Instant Instant Span := ⟨fun a b => ⟨a.nanos - b.nanos⟩⟩

/-- The instant that lies a span after another. -/
instance : HAdd Instant Span Instant := ⟨fun a d => ⟨a.nanos + d.nanos⟩⟩

/-- The instant that lies a span before another. -/
instance : HSub Instant Span Instant := ⟨fun a d => ⟨a.nanos - d.nanos⟩⟩

@[simp] theorem nanos_sub (a b : Instant) : (a - b : Span).nanos = a.nanos - b.nanos := rfl

@[simp] theorem nanos_add_span (a : Instant) (d : Span) :
    (a + d : Instant).nanos = a.nanos + d.nanos := rfl

@[simp] theorem nanos_sub_span (a : Instant) (d : Span) :
    (a - d : Instant).nanos = a.nanos - d.nanos := rfl

/-- The beginning of 1970. -/
def epoch : Instant := ⟨0⟩

/-- The later of two instants. -/
def later (a b : Instant) : Instant := if a ≤ b then b else a

/-! ### The range of the calendar -/

/-- The first millisecond of the calendar, in the year -262143. -/
def firstMillis : Int := -8334601228800000

/-- The last millisecond of the calendar, in the year 262142. -/
def lastMillis : Int := 8210266876799999

/-- Whether an instant lies in the calendar. -/
def Representable (t : Instant) : Prop :=
  firstMillis * 1000000 ≤ t.nanos ∧ t.nanos < (lastMillis + 1) * 1000000

instance (t : Instant) : Decidable t.Representable :=
  inferInstanceAs (Decidable (_ ∧ _))

/-- The instant a span before another, if it lies in the calendar. -/
def minus? (t : Instant) (d : Span) : Option Instant :=
  if (t - d : Instant).Representable then some (t - d) else none

/-- Milliseconds since the epoch, rounded toward the past. -/
def toMillis (t : Instant) : Int := t.nanos / 1000000

/-- The instant of a number of milliseconds, whether or not it lies in the calendar. -/
def atMillis (ms : Int) : Instant := ⟨ms * 1000000⟩

/-- The instant of a stored number of milliseconds; what lies outside the calendar reads as
the epoch. -/
def ofMillis (ms : Int) : Instant :=
  if firstMillis ≤ ms ∧ ms ≤ lastMillis then atMillis ms else epoch

@[simp] theorem toMillis_atMillis (ms : Int) : (atMillis ms).toMillis = ms := by
  simp only [toMillis, atMillis]
  omega

end Instant

/-! ### Calendar dates -/

/-- A date of the Gregorian calendar, extended to all years. -/
structure CivilDate where
  /-- The year; the year 0 precedes the year 1. -/
  year : Int
  /-- The month, from 1. -/
  month : Nat
  /-- The day of the month, from 1. -/
  day : Nat
  deriving DecidableEq, Repr

/-- The date of a day, counted from the beginning of 1970. Years are taken to begin in March,
so that the leap day is the last of its year; 400 such years have 146097 days. -/
def civilDate (days : Int) : CivilDate :=
  let shifted := days + 719468
  let era := shifted / 146097
  let dayOfEra := (shifted % 146097).toNat
  let yearOfEra := (dayOfEra - dayOfEra / 1460 + dayOfEra / 36524 - dayOfEra / 146096) / 365
  let dayOfYear := dayOfEra - (365 * yearOfEra + yearOfEra / 4 - yearOfEra / 100)
  let monthFromMarch := (5 * dayOfYear + 2) / 153
  let day := dayOfYear - (153 * monthFromMarch + 2) / 5 + 1
  let month := if monthFromMarch < 10 then monthFromMarch + 3 else monthFromMarch - 9
  let year := era * 400 + yearOfEra + (if month ≤ 2 then 1 else 0)
  ⟨year, month, day⟩

/-- The year in four digits; outside 0 to 9999 it carries a sign. -/
def yearText (year : Int) : String :=
  if 0 ≤ year ∧ year ≤ 9999 then Text.padded 4 year.toNat
  else (if year < 0 then "-" else "+") ++ Text.padded 4 year.natAbs

/-- Date and time of a second, counted from the epoch, without a time zone. -/
def secondText (seconds : Int) : String :=
  let date := civilDate (seconds / 86400)
  let time := (seconds % 86400).toNat
  yearText date.year ++ "-" ++ Text.padded 2 date.month ++ "-" ++ Text.padded 2 date.day
    ++ "T" ++ Text.padded 2 (time / 3600) ++ ":" ++ Text.padded 2 (time / 60 % 60)
    ++ ":" ++ Text.padded 2 (time % 60)

namespace Instant

/-- The text of an instant in messages: whole seconds, rounded toward the past. -/
def text (t : Instant) : String := secondText (t.nanos / 1000000000) ++ "Z"

/-- The text of an instant that may be missing. -/
def textOrDash : Option Instant → String
  | none => "-"
  | some t => t.text

/-- The text of an instant in records: a fraction of three, six or nine digits is written if
it is needed. -/
def preciseText (t : Instant) : String :=
  let fraction := (t.nanos % 1000000000).toNat
  let digits :=
    if fraction = 0 then ""
    else if fraction % 1000000 = 0 then "." ++ Text.padded 3 (fraction / 1000000)
    else if fraction % 1000 = 0 then "." ++ Text.padded 6 (fraction / 1000)
    else "." ++ Text.padded 9 fraction
  secondText (t.nanos / 1000000000) ++ digits ++ "Z"

end Instant

end Uptime
