/-!
# Spans of time

Signed spans of time, exact to the nanosecond.

## Main definitions

* `Span`: a span, with `Span.ofSeconds`, `Span.ofMillis`, `Span.ofDays`.
* `Span.wholeSeconds`: the seconds of a span, its fraction cut off.
* `Span.short`: the short text of a downtime.
* `Span.longest`: the longest span that two instants of the calendar can be compared with.
-/

namespace Uptime

/-- A signed span of time. -/
structure Span where
  /-- Its length in nanoseconds. -/
  nanos : Int
  deriving DecidableEq, Repr, Inhabited

namespace Span

instance : LE Span := ⟨fun a b => a.nanos ≤ b.nanos⟩

instance : LT Span := ⟨fun a b => a.nanos < b.nanos⟩

instance (a b : Span) : Decidable (a ≤ b) := inferInstanceAs (Decidable (a.nanos ≤ b.nanos))

instance (a b : Span) : Decidable (a < b) := inferInstanceAs (Decidable (a.nanos < b.nanos))

theorem le_def {a b : Span} : a ≤ b ↔ a.nanos ≤ b.nanos := Iff.rfl

theorem lt_def {a b : Span} : a < b ↔ a.nanos < b.nanos := Iff.rfl

/-- A span of whole milliseconds. -/
def ofMillis (n : Int) : Span := ⟨n * 1000000⟩

/-- A span of whole seconds. -/
def ofSeconds (n : Int) : Span := ⟨n * 1000000000⟩

/-- A span of whole days. -/
def ofDays (n : Int) : Span := ofSeconds (n * 86400)

/-- The longest span: the milliseconds of an integer of 64 bits. -/
def longest : Span := ofMillis 9223372036854775807

/-- The whole seconds of a span; the fraction is cut off toward zero. -/
def wholeSeconds (d : Span) : Int := d.nanos.tdiv 1000000000

/-- The seconds of a downtime: a negative span counts as none. -/
def downtimeSeconds (d : Span) : Nat := d.wholeSeconds.toNat

/-- The text of a downtime of `t` seconds: `45s`, `2m5s` or `1h2m5s`. Hours are not carried
into days. -/
def shortOfSeconds (t : Nat) : String :=
  if t < 60 then toString t ++ "s"
  else if t < 3600 then toString (t / 60) ++ "m" ++ toString (t % 60) ++ "s"
  else toString (t / 3600) ++ "h" ++ toString (t / 60 % 60) ++ "m" ++ toString (t % 60) ++ "s"

/-- The short text of a downtime. -/
def short (d : Span) : String := shortOfSeconds d.downtimeSeconds

end Span

end Uptime
