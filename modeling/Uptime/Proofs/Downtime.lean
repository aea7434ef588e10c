import Uptime.Proofs.Text.Ends
import Uptime.Proofs.Text.Numerals
import Uptime.Time.Span

/-!
# The text of a downtime

A downtime is written in seconds, in minutes and seconds, or in hours, minutes and seconds, and what
is written can be read back. Nothing is lost but the fraction of a second and a negative sign.

## Main definitions

* `Downtime`: the parts in which a downtime is written.
* `Downtime.total`, `Downtime.text`, `Downtime.ofText?`: their sum, their text, and how it is read.
* `Downtime.Breaks`: the parts of a number of seconds.

## Main results

* `Downtime.ofText?_eq_some_iff`: parts are read from their text and from nothing else.
* `Downtime.breaks_iff`: every number of seconds has its parts, and no other ones.
* `Span.exact_short`: the text of a downtime is exact.
-/

namespace Uptime

open Text

/-- The parts in which a downtime is written. Hours and minutes may be missing. -/
structure Downtime where
  /-- The hours, however many. -/
  hours : Option Nat
  /-- The minutes. -/
  minutes : Option Nat
  /-- The seconds. -/
  seconds : Nat
  deriving DecidableEq, Repr

namespace Downtime

/-- The parts in seconds. -/
def total (p : Downtime) : Nat := p.hours.getD 0 * 3600 + p.minutes.getD 0 * 60 + p.seconds

/-! ### Reading -/

/-- A part that may be missing, in front of its unit. -/
def part (n : Option Nat) (unit : Char) : List Char := n.elim [] fun n => amount n unit

/-- The text of the parts. -/
def text (p : Downtime) : String :=
  String.ofList (part p.hours 'h' ++ (part p.minutes 'm' ++ amount p.seconds 's'))

/-- Reads a part that may be missing. What follows is left over. -/
def readPart (unit : Char) (cs : List Char) : Option Nat × List Char :=
  match amount? unit cs with
  | some (n, rest) => (some n, rest)
  | none => (none, cs)

/-- Reads the parts from a text. -/
def ofText? (text : String) : Option Downtime :=
  let hours := readPart 'h' text.toList
  let minutes := readPart 'm' hours.2
  match amount? 's' minutes.2 with
  | some (seconds, []) => some ⟨hours.1, minutes.1, seconds⟩
  | _ => none

section

variable {unit : Char} {rest : List Char}

/-- What is read as a part stands there. -/
theorem part_readPart_append (hunit : unit.isDigit = false) (cs : List Char) :
    part (readPart unit cs).1 unit ++ (readPart unit cs).2 = cs := by
  rw [readPart]
  split
  · next n rest hread => exact ((amount?_eq_some_iff hunit).mp hread).symm
  · rfl

/-- What stands there is read, unless a part that is missing could be read from what follows. -/
theorem readPart_part_append (unit : Char) (hunit : unit.isDigit = false)
    (h : amount? unit rest = none) (n : Option Nat) :
    readPart unit (part n unit ++ rest) = (n, rest) := by
  cases n with
  | none => rw [part, Option.elim_none, List.nil_append, readPart, h]
  | some n =>
    rw [part, Option.elim_some, readPart, amount?_amount_append hunit, if_pos rfl]

/-- **Parts are read from their text**, and from nothing else. -/
theorem ofText?_eq_some_iff {s : String} {p : Downtime} : ofText? s = some p ↔ s = p.text := by
  constructor
  · intro h
    rw [ofText?] at h
    split at h
    · next seconds hread =>
      obtain rfl := Option.some.inj h
      have hlast := (amount?_eq_some_iff (by decide)).mp hread
      rw [text, ← List.append_nil (amount seconds 's'), ← hlast,
        part_readPart_append (by decide), part_readPart_append (by decide), String.ofList_toList]
    · cases h
  · rintro rfl
    have hseconds : ∀ unit, amount? unit (amount p.seconds 's') =
        if 's' = unit then some (p.seconds, []) else none := fun unit => by
      rw [← amount?_amount_append (by decide), List.append_nil]
    have hnoHours : amount? 'h' (part p.minutes 'm' ++ amount p.seconds 's') = none := by
      cases p.minutes with
      | none => exact hseconds 'h'
      | some m => exact amount?_amount_append (by decide) m _
    have hhours := readPart_part_append 'h' (by decide) hnoHours p.hours
    have hminutes := readPart_part_append 'm' (by decide) (hseconds 'm') p.minutes
    simp only [ofText?, text, String.toList_ofList, hhours, hminutes, hseconds, if_true]

/-- Numerals have no leading zeros, and units come in one order. -/
example : ofText? "1h0m5s" = some ⟨some 1, some 0, 5⟩ ∧ ofText? "1m05s" = none ∧
    ofText? "5s1m" = none := by decide

end

/-! ### Seconds -/

/-- The parts of a number of seconds: there are at most 59 seconds and 59 minutes, and minutes and
hours are written as soon as there is one. -/
structure Breaks (p : Downtime) (t : Nat) : Prop where
  total_eq : p.total = t
  seconds_lt : p.seconds < 60
  minutes_lt : ∀ m ∈ p.minutes, m < 60
  isSome_minutes_iff : p.minutes.isSome = true ↔ 60 ≤ t
  isSome_hours_iff : p.hours.isSome = true ↔ 3600 ≤ t

/-- The parts of a number of seconds, by division. -/
def ofSeconds (t : Nat) : Downtime where
  hours := if 3600 ≤ t then some (t / 3600) else none
  minutes := if 60 ≤ t then some (t / 60 % 60) else none
  seconds := t % 60

section

variable {p : Downtime} {t : Nat}

theorem breaks_ofSeconds (t : Nat) : (ofSeconds t).Breaks t where
  total_eq := by
    have hhours : (ofSeconds t).hours.getD 0 = t / 3600 := by
      by_cases h : 3600 ≤ t
      · simp [ofSeconds, h]
      · simp [ofSeconds, h, Nat.div_eq_of_lt (Nat.not_le.mp h)]
    have hminutes : (ofSeconds t).minutes.getD 0 = t / 60 % 60 := by
      by_cases h : 60 ≤ t
      · simp [ofSeconds, h]
      · simp [ofSeconds, h, Nat.div_eq_of_lt (Nat.not_le.mp h)]
    have hseconds : (ofSeconds t).seconds = t % 60 := rfl
    rw [total, hhours, hminutes, hseconds]
    omega
  seconds_lt := Nat.mod_lt t (by decide)
  minutes_lt m hm := by
    obtain ⟨-, rfl⟩ : 60 ≤ t ∧ t / 60 % 60 = m := by simpa [ofSeconds] using hm
    exact Nat.mod_lt _ (by decide)
  isSome_minutes_iff := by by_cases h : 60 ≤ t <;> simp [ofSeconds, h]
  isSome_hours_iff := by by_cases h : 3600 ≤ t <;> simp [ofSeconds, h]

theorem Breaks.eq_ofSeconds (h : p.Breaks t) : p = ofSeconds t := by
  obtain ⟨hours, minutes, seconds⟩ := p
  obtain ⟨htotal, hseconds, hminutes, hsomeMinutes, hsomeHours⟩ := h
  dsimp only at hseconds
  cases minutes with
  | none =>
    have hlt : t < 60 := by simpa using hsomeMinutes
    cases hours with
    | none =>
      have ht : seconds = t := by simpa [total] using htotal
      rw [ofSeconds, if_neg (by omega), if_neg (by omega), ht, Nat.mod_eq_of_lt hlt]
    | some n =>
      have hle : 3600 ≤ t := by simpa using hsomeHours
      omega
  | some m =>
    have hle : 60 ≤ t := by simpa using hsomeMinutes
    have hm : m < 60 := hminutes m rfl
    cases hours with
    | none =>
      have hlt : t < 3600 := by simpa using hsomeHours
      have ht : m * 60 + seconds = t := by simpa [total] using htotal
      rw [ofSeconds, if_neg (by omega), if_pos hle, show t / 60 % 60 = m by omega,
        show t % 60 = seconds by omega]
    | some n =>
      have hle' : 3600 ≤ t := by simpa using hsomeHours
      have ht : n * 3600 + m * 60 + seconds = t := htotal
      rw [ofSeconds, if_pos hle', if_pos hle, show t / 3600 = n by omega,
        show t / 60 % 60 = m by omega, show t % 60 = seconds by omega]

/-- **Every number of seconds has its parts**, and no other ones. -/
theorem breaks_iff : p.Breaks t ↔ p = ofSeconds t :=
  ⟨Breaks.eq_ofSeconds, fun h => h ▸ breaks_ofSeconds t⟩

/-- **What is written of a number of seconds** are its parts. -/
theorem text_ofSeconds (t : Nat) : (ofSeconds t).text = Span.shortOfSeconds t := by
  have hunit : ∀ n unit, String.ofList (amount n unit) = toString n ++ String.ofList [unit] :=
    fun n unit => by rw [amount, String.ofList_append, Nat.toString_eq_ofList_toDigits]
  have hs : String.ofList ['s'] = "s" := rfl
  have hm : String.ofList ['m'] = "m" := rfl
  have hh : String.ofList ['h'] = "h" := rfl
  rw [text, Span.shortOfSeconds, ofSeconds]
  by_cases hminutes : 60 ≤ t
  · by_cases hhours : 3600 ≤ t
    · rw [if_pos hhours, if_pos hminutes, if_neg (by omega), if_neg (by omega)]
      simp only [part, Option.elim_some, String.ofList_append, hunit, hs, hm, hh,
        String.append_assoc]
    · have hrest : t / 60 % 60 = t / 60 := by omega
      rw [if_neg hhours, if_pos hminutes, if_neg (by omega), if_pos (by omega), hrest]
      simp only [part, Option.elim_some, Option.elim_none, List.nil_append, String.ofList_append,
        hunit, hs, hm, String.append_assoc]
  · have hrest : t % 60 = t := by omega
    rw [if_neg (by omega), if_neg hminutes, if_pos (by omega), hrest]
    simp only [part, Option.elim_none, List.nil_append, hunit, hs]

/-- What is read of a number of seconds. -/
theorem ofText?_shortOfSeconds (t : Nat) : ofText? (Span.shortOfSeconds t) = some (ofSeconds t) :=
  ofText?_eq_some_iff.mpr (text_ofSeconds t).symm

end

end Downtime

namespace Span

theorem natCast_downtimeSeconds (d : Span) :
    (d.downtimeSeconds : Int) = max 0 (d.nanos.tdiv 1000000000) := by
  rw [downtimeSeconds, wholeSeconds, Int.toNat_eq_max, Int.max_comm]

/-- The whole seconds of a span of milliseconds. -/
theorem natCast_downtimeSeconds_ofMillis (ms : Int) :
    ((ofMillis ms).downtimeSeconds : Int) = max 0 (ms.tdiv 1000) := by
  have hscale : (ms * 1000000).tdiv (1000 * 1000000) = ms.tdiv 1000 :=
    Int.mul_tdiv_mul_of_pos_left ms 1000 (by decide)
  rw [natCast_downtimeSeconds, ofMillis, ← hscale]
  rfl

/-- **The text of a downtime is exact.** It is the only text of which the parts of the whole seconds
are read, a negative span counting as none, and so it is that of another span exactly if that one
has as many whole seconds. -/
theorem exact_short :
    (∀ d : Span, (d.downtimeSeconds : Int) = max 0 (d.nanos.tdiv 1000000000)) ∧
      (∀ ms : Int, ((ofMillis ms).downtimeSeconds : Int) = max 0 (ms.tdiv 1000)) ∧
      (∀ (d : Span) (s : String), s = d.short ↔
        ∃ p, Downtime.ofText? s = some p ∧ p.Breaks d.downtimeSeconds) ∧
      (∀ d : Span, (Downtime.ofText? d.short).map Downtime.total = some d.downtimeSeconds) ∧
      ∀ d d' : Span, d.short = d'.short ↔ d.downtimeSeconds = d'.downtimeSeconds := by
  have hread : ∀ d : Span, Downtime.ofText? d.short = some (.ofSeconds d.downtimeSeconds) :=
    fun d => Downtime.ofText?_shortOfSeconds d.downtimeSeconds
  have htotal : ∀ d : Span,
      (Downtime.ofText? d.short).map Downtime.total = some d.downtimeSeconds := fun d => by
    rw [hread, Option.map_some, (Downtime.breaks_ofSeconds _).total_eq]
  refine ⟨natCast_downtimeSeconds, natCast_downtimeSeconds_ofMillis, fun d s => ⟨?_, ?_⟩, htotal,
    fun d d' => ⟨fun h => ?_, fun h => ?_⟩⟩
  · rintro rfl
    exact ⟨_, hread d, Downtime.breaks_ofSeconds _⟩
  · rintro ⟨p, hp, hbreaks⟩
    rw [Downtime.ofText?_eq_some_iff.mp hp, Downtime.breaks_iff.mp hbreaks,
      Downtime.text_ofSeconds, short]
  · have hsame := htotal d
    rw [h, htotal d'] at hsame
    exact (Option.some.inj hsame).symm
  · rw [short, short, h]

end Span

end Uptime
