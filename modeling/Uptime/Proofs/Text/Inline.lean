import Mathlib.Algebra.Ring.Nat
import Mathlib.Data.List.Basic
import Uptime.Proofs.Text.Escape
import Uptime.Time.Instant

/-!
# Numbers and times in messages

What messages say about numbers and times stands in one row, has no meaning in markup, and is short:
a number below a power of ten has as many digits as that has zeros, and a time of the calendar is
made of six numbers.

## Main definitions

* `Inline`: a text that can stand in a row as it is.

## Main results

* `inline_toString`, `Instant.inline_text`: numbers and times can.
* `byteCount_toString_le`: the size of a number.
* `Instant.byteCount_text_le`: the size of a time.
-/

namespace Uptime

namespace Text

/-- A text that can stand in a row of markup as it is. -/
def Inline (s : String) : Prop := ∀ c ∈ s.toList, isSpecial c = false ∧ c ≠ '\n'

instance (s : String) : Decidable (Inline s) :=
  List.decidableBAll (fun c => isSpecial c = false ∧ c ≠ '\n') s.toList

theorem Inline.plain {s : String} (h : Inline s) : Plain s.toList := fun c hc => (h c hc).1

theorem inline_append_iff {s t : String} : Inline (s ++ t) ↔ Inline s ∧ Inline t := by
  simp only [Inline, String.toList_append, List.forall_mem_append]

theorem Inline.newline_notMem {s : String} (h : Inline s) : '\n' ∉ s.toList :=
  fun hmem => (h _ hmem).2 rfl

/-! ### Numbers -/

theorem of_isDigit {c : Char} (h : c.isDigit = true) :
    (isSpecial c = false ∧ c ≠ '\n') ∧ c.utf8Size = 1 := by
  simp only [Char.isDigit, Bool.and_eq_true, decide_eq_true_eq, ge_iff_le,
    UInt32.le_iff_toNat_le] at h
  have hlow : 48 ≤ c.val.toNat := h.1
  have hhigh : c.val.toNat ≤ 57 := h.2
  have hne : ∀ d : Char, d.val.toNat < 48 ∨ 57 < d.val.toNat → c ≠ d := by
    rintro d hd rfl
    omega
  refine ⟨⟨?_, hne _ (by decide)⟩, ?_⟩
  · simp [isSpecial, hne '<' (by decide), hne '>' (by decide), hne '&' (by decide)]
  · rw [Char.utf8Size_eq_one_iff, UInt32.le_iff_toNat_le]
    exact Nat.le_trans hhigh (by decide)

theorem isDigit_of_mem_toDigits {n : Nat} {c : Char} (h : c ∈ Nat.toDigits 10 n) :
    c.isDigit = true :=
  Nat.isDigit_of_mem_toDigits (by decide) (by decide) h

theorem byteCount_toDigits_le {n k : Nat} (hk : 0 < k) (h : n < 10 ^ k) :
    byteCount (Nat.toDigits 10 n) ≤ k := by
  have hsize : ∀ cs : List Char, (∀ c ∈ cs, c.utf8Size = 1) → byteCount cs = cs.length := by
    intro cs
    induction cs with
    | nil => exact fun _ => rfl
    | cons c cs ih =>
      intro h
      obtain ⟨hc, hcs⟩ := List.forall_mem_cons.mp h
      rw [byteCount_cons, hc, ih hcs, List.length_cons, Nat.add_comm]
  rw [hsize _ fun c hc => (of_isDigit (isDigit_of_mem_toDigits hc)).2]
  exact (Nat.length_toDigits_le_iff (by decide) hk).mpr h

theorem inline_toString (n : Nat) : Inline (toString n) := by
  intro c hc
  rw [Nat.toString_eq_ofList_toDigits, String.toList_ofList] at hc
  exact (of_isDigit (isDigit_of_mem_toDigits hc)).1

/-- The size of a number. -/
theorem byteCount_toString_le {n k : Nat} (hk : 0 < k) (h : n < 10 ^ k) :
    byteCount (toString n).toList ≤ k := by
  rw [Nat.toString_eq_ofList_toDigits, String.toList_ofList]
  exact byteCount_toDigits_le hk h

theorem inline_padded (width n : Nat) : Inline (padded width n) := by
  intro c hc
  rw [padded, String.toList_ofList, List.mem_append] at hc
  rcases hc with hc | hc
  · rw [List.eq_of_mem_replicate hc]
    decide
  · exact (of_isDigit (isDigit_of_mem_toDigits hc)).1

theorem byteCount_replicate (n : Nat) (c : Char) :
    byteCount (List.replicate n c) = n * c.utf8Size := by
  induction n with
  | zero => simp
  | succ n ih =>
    rw [List.replicate_succ, byteCount_cons, ih, Nat.succ_mul, Nat.add_comm]

theorem byteCount_padded_le {width n k : Nat} (hk : 0 < k) (h : n < 10 ^ k) :
    byteCount (padded width n).toList ≤ width + k := by
  have hzeros : byteCount (List.replicate (width - (Nat.toDigits 10 n).length) '0') =
      width - (Nat.toDigits 10 n).length := by
    rw [byteCount_replicate]
    exact Nat.mul_one _
  rw [padded, String.toList_ofList, byteCount_append, hzeros]
  exact Nat.add_le_add (Nat.sub_le _ _) (byteCount_toDigits_le hk h)

end Text

open Text

/-! ### Times -/

/-- A date within some hundred thousand years has parts of at most seven digits. -/
theorem civilDate_lt {days : Int} (hlow : -100000000 ≤ days) (hhigh : days ≤ 100000000) :
    (civilDate days).year.natAbs < 10 ^ 7 ∧ (civilDate days).month < 10 ^ 7 ∧
      (civilDate days).day < 10 ^ 7 := by
  simp only [civilDate]
  generalize hdayOfEra : ((days + 719468) % 146097).toNat = dayOfEra
  have : dayOfEra < 146097 := by omega
  generalize hyearOfEra : (dayOfEra - dayOfEra / 1460 + dayOfEra / 36524 - dayOfEra / 146096) / 365
    = yearOfEra
  have : yearOfEra < 500 := by omega
  generalize hdayOfYear : dayOfEra - (365 * yearOfEra + yearOfEra / 4 - yearOfEra / 100) = dayOfYear
  have : dayOfYear < 146097 := by omega
  refine ⟨?_, ?_, by omega⟩
  · split <;> split <;> omega
  · split <;> omega

theorem inline_yearText (year : Int) : Inline (yearText year) := by
  rw [yearText]
  split
  · exact inline_padded _ _
  · exact inline_append_iff.mpr ⟨by split <;> decide, inline_padded _ _⟩

theorem byteCount_yearText_le {year : Int} (h : year.natAbs < 10 ^ 7) :
    byteCount (yearText year).toList ≤ 12 := by
  rw [yearText]
  split
  · have hsize : byteCount (padded 4 year.toNat).toList ≤ 4 + 7 :=
      byteCount_padded_le (by decide) (by omega)
    omega
  · have hsign : byteCount (if year < 0 then "-" else "+").toList = 1 := by split <;> rfl
    have hsize : byteCount (padded 4 year.natAbs).toList ≤ 4 + 7 := byteCount_padded_le (by decide) h
    rw [String.toList_append, byteCount_append, hsign]
    omega

namespace Instant

/-- A time can stand in a row of markup as it is. -/
theorem inline_text (t : Instant) : Inline t.text := by
  simp only [text, secondText, inline_append_iff, inline_yearText, inline_padded, true_and, and_true]
  decide

theorem inline_textOrDash (t : Option Instant) : Inline (textOrDash t) := by
  cases t with
  | none => decide
  | some t => exact t.inline_text

/-- **A time of the calendar is short.** -/
theorem byteCount_text_le {t : Instant} (h : t.Representable) : byteCount t.text.toList ≤ 65 := by
  obtain ⟨hlow, hhigh⟩ := h
  simp only [firstMillis, lastMillis] at hlow hhigh
  have hlow : -100000000 ≤ t.nanos / 1000000000 / 86400 := by omega
  have hhigh : t.nanos / 1000000000 / 86400 ≤ 100000000 := by omega
  obtain ⟨hyear, hmonth, hday⟩ := civilDate_lt hlow hhigh
  have hseconds : (t.nanos / 1000000000 % 86400).toNat < 10 ^ 7 := by omega
  have hparts : ∀ n < 10 ^ 7, byteCount (padded 2 n).toList ≤ 9 := fun n hn =>
    byteCount_padded_le (by decide) hn
  have := byteCount_yearText_le hyear
  have := hparts _ hmonth
  have := hparts _ hday
  have := hparts ((t.nanos / 1000000000 % 86400).toNat / 3600) (by omega)
  have := hparts ((t.nanos / 1000000000 % 86400).toNat / 60 % 60) (by omega)
  have := hparts ((t.nanos / 1000000000 % 86400).toNat % 60) (by omega)
  have hone : byteCount "-".toList = 1 ∧ byteCount "T".toList = 1 ∧ byteCount ":".toList = 1 ∧
      byteCount "Z".toList = 1 := by decide
  simp only [text, secondText, String.toList_append, byteCount_append, hone]
  omega

end Instant

end Uptime
