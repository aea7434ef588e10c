import Uptime.Proofs.Text.Inline
import Uptime.Text.Decimal

/-!
# Numerals

A number has one numeral: its decimal digits without a leading zero. A reader that insists on this
reads exactly what is written, also where units stand behind the numerals.

## Main definitions

* `numeral?`: the value of a numeral without leading zeros.
* `amount`, `amount?`: a number in front of its unit, and how it is read.

## Main results

* `numeral?_eq_some_iff`: a number is read from its numeral and from nothing else.
* `amount?_eq_some_iff`: so is a number in front of its unit.
-/

namespace Uptime.Text

section

variable {c : Char} {cs : List Char} {n : Nat}

/-- The value of a numeral. A leading zero is refused, unless it is the only digit. -/
def numeral? (cs : List Char) : Option Nat :=
  if cs.head? = some '0' ∧ cs ≠ ['0'] then none else digitsToNat? cs

theorem digitsToNat?_eq_some_iff : digitsToNat? cs = some n ↔
    (cs ≠ [] ∧ ∀ c ∈ cs, c.isDigit = true) ∧ Nat.ofDigitChars 10 cs 0 = n := by
  rw [digitsToNat?, Nat.ofDigitChars_eq_foldl, ← List.all_eq_true]
  split
  · next hdigits => rw [Option.some_inj, and_iff_right hdigits]
  · next hdigits => simp only [hdigits, reduceCtorEq, false_and]

/-- A digit is that of its value. -/
theorem digitChar_toNat_sub (h : c.isDigit = true) :
    c.toNat - '0'.toNat < 10 ∧ (c.toNat - '0'.toNat).digitChar = c := by
  obtain ⟨hlow, hhigh⟩ := Char.isDigit_iff_toNat.mp h
  have hlow : 48 ≤ c.toNat := hlow
  have hhigh : c.toNat ≤ 57 := hhigh
  have hzero : '0'.toNat = 48 := rfl
  have hlt : c.toNat - '0'.toNat < 10 := by omega
  refine ⟨hlt, Char.toNat_inj.mp ?_⟩
  rw [Nat.toNat_digitChar_of_lt_ten hlt]
  omega

/-- More digits behind the numeral of a number. -/
theorem toDigits_append (hpos : 0 < n) (hdigits : ∀ c ∈ cs, c.isDigit = true) :
    Nat.toDigits 10 n ++ cs = Nat.toDigits 10 (Nat.ofDigitChars 10 cs n) := by
  induction cs generalizing n with
  | nil => rw [List.append_nil, Nat.ofDigitChars_nil]
  | cons c cs ih =>
    obtain ⟨hc, hcs⟩ := List.forall_mem_cons.mp hdigits
    obtain ⟨hlt, hdigit⟩ := digitChar_toNat_sub hc
    rw [Nat.ofDigitChars_cons, ← ih (by omega) hcs,
      ← Nat.toDigits_append_toDigits (by decide) hpos hlt, Nat.toDigits_of_lt_base hlt, hdigit,
      List.append_assoc, List.singleton_append]

/-- **A numeral without leading zeros** is that of its value. -/
theorem toDigits_ofDigitChars (hne : cs ≠ []) (hdigits : ∀ c ∈ cs, c.isDigit = true)
    (hlead : cs.head? = some '0' → cs = ['0']) :
    Nat.toDigits 10 (Nat.ofDigitChars 10 cs 0) = cs := by
  cases cs with
  | nil => exact absurd rfl hne
  | cons c cs =>
    obtain ⟨hc, hcs⟩ := List.forall_mem_cons.mp hdigits
    obtain ⟨hlt, hdigit⟩ := digitChar_toNat_sub hc
    rw [Nat.ofDigitChars_cons, Nat.mul_zero, Nat.zero_add]
    rcases Nat.eq_zero_or_pos (c.toNat - '0'.toNat) with hzero | hpos
    · obtain rfl : c = '0' := by rw [← hdigit, hzero]; rfl
      rw [(List.cons_eq_cons.mp (hlead rfl)).2]
      rfl
    · rw [← toDigits_append hpos hcs, Nat.toDigits_of_lt_base hlt, hdigit, List.singleton_append]

/-- There are no leading zeros in what is written. -/
theorem head?_toDigits_ne_zero (hpos : 0 < n) : (Nat.toDigits 10 n).head? ≠ some '0' := by
  induction n using Nat.strongRecOn with
  | ind n ih =>
    by_cases hlt : n < 10
    · rw [Nat.toDigits_of_lt_base hlt, List.head?_cons, Ne, Option.some_inj, Nat.digitChar_eq_zero]
      exact Nat.ne_of_gt hpos
    · rw [Nat.toDigits_of_base_le (by decide) (Nat.not_lt.mp hlt),
        List.head?_append_of_ne_nil _ Nat.toDigits_ne_nil]
      exact ih (n / 10) (by omega) (by omega)

/-- **A number is read from its numeral** and from nothing else. -/
theorem numeral?_eq_some_iff : numeral? cs = some n ↔ cs = Nat.toDigits 10 n := by
  rw [numeral?]
  constructor
  · split
    · intro h
      cases h
    · next hlead =>
      intro h
      obtain ⟨⟨hne, hdigits⟩, rfl⟩ := digitsToNat?_eq_some_iff.mp h
      exact (toDigits_ofDigitChars hne hdigits fun hzero =>
        not_not.mp (not_and.mp hlead hzero)).symm
  · rintro rfl
    have hlead : ¬ ((Nat.toDigits 10 n).head? = some '0' ∧ Nat.toDigits 10 n ≠ ['0']) := by
      rintro ⟨hzero, hother⟩
      rcases Nat.eq_zero_or_pos n with rfl | hpos
      · exact hother rfl
      · exact head?_toDigits_ne_zero hpos hzero
    rw [if_neg hlead, digitsToNat?_eq_some_iff]
    exact ⟨⟨Nat.toDigits_ne_nil, fun _ => isDigit_of_mem_toDigits⟩, Nat.ofDigitChars_ten_toDigits⟩

end

/-! ### Units -/

/-- A number in front of its unit. -/
def amount (n : Nat) (unit : Char) : List Char := Nat.toDigits 10 n ++ [unit]

/-- Reads a number in front of its unit. What follows is left over. -/
def amount? (unit : Char) (cs : List Char) : Option (Nat × List Char) :=
  match cs.dropWhile Char.isDigit with
  | [] => none
  | c :: rest =>
    if c = unit then (numeral? (cs.takeWhile Char.isDigit)).map fun n => (n, rest) else none

section

variable {unit : Char} {cs rest : List Char} {n : Nat}

/-- **What is read of a number in front of a unit**: nothing if it is another unit. -/
theorem amount?_amount_append {unit' : Char} (h : unit'.isDigit = false) (n : Nat)
    (rest : List Char) : amount? unit (amount n unit' ++ rest) =
      if unit' = unit then some (n, rest) else none := by
  have hdigits : ∀ c ∈ Nat.toDigits 10 n, c.isDigit = true := fun _ => isDigit_of_mem_toDigits
  have hstop : ¬ unit'.isDigit = true := by simp [h]
  rw [amount, List.append_assoc, List.singleton_append, amount?,
    List.dropWhile_append_of_pos hdigits, List.dropWhile_cons_of_neg hstop,
    List.takeWhile_append_of_pos hdigits, List.takeWhile_cons_of_neg hstop, List.append_nil,
    numeral?_eq_some_iff.mpr rfl]
  rfl

/-- **A number in front of its unit is read** from what is written, and from nothing else. -/
theorem amount?_eq_some_iff (h : unit.isDigit = false) :
    amount? unit cs = some (n, rest) ↔ cs = amount n unit ++ rest := by
  constructor
  · intro hread
    rw [amount?] at hread
    split at hread
    · cases hread
    · next c rest' hdrop =>
      split at hread
      · next hunit =>
        obtain ⟨m, hm, heq⟩ := Option.map_eq_some_iff.mp hread
        obtain ⟨rfl, rfl⟩ := Prod.mk.inj heq
        rw [amount, ← numeral?_eq_some_iff.mp hm, ← hunit, List.append_assoc,
          List.singleton_append, ← hdrop, List.takeWhile_append_dropWhile]
      · cases hread
  · rintro rfl
    rw [amount?_amount_append h, if_pos rfl]

end

end Uptime.Text
