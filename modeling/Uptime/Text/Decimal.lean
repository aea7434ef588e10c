/-!
# Decimal numerals

Reading and padding of decimal numerals.

## Main definitions

* `digitsToNat?`: the value of a non-empty run of ASCII digits.
* `toInt?`: the value of an optional sign and a run of digits.
* `toInt64?`: the same, restricted to 64 bits.
* `padded`: a numeral with leading zeros.
-/

namespace Uptime.Text

/-- The value of a non-empty run of the digits 0 to 9. -/
def digitsToNat? (cs : List Char) : Option Nat :=
  if cs ≠ [] ∧ cs.all Char.isDigit then
    some (cs.foldl (fun n c => 10 * n + (c.toNat - '0'.toNat)) 0)
  else none

/-- The value of an optional sign, plus or minus, and a run of digits. -/
def toInt? (s : String) : Option Int :=
  match s.toList with
  | '-' :: cs => (digitsToNat? cs).map fun n => -(n : Int)
  | '+' :: cs => (digitsToNat? cs).map Int.ofNat
  | cs => (digitsToNat? cs).map Int.ofNat

/-- The least integer of 64 bits. -/
def int64Min : Int := -9223372036854775808

/-- The greatest integer of 64 bits. -/
def int64Max : Int := 9223372036854775807

/-- The value of a signed numeral, if it has 64 bits. -/
def toInt64? (s : String) : Option Int :=
  (toInt? s).filter fun n => int64Min ≤ n && n ≤ int64Max

/-- A numeral of at least `width` digits. -/
def padded (width n : Nat) : String :=
  let digits := Nat.toDigits 10 n
  String.ofList (List.replicate (width - digits.length) '0' ++ digits)

/-- A text followed by blanks up to `width` characters. -/
def leftAligned (width : Nat) (s : String) : String :=
  s ++ String.ofList (List.replicate (width - s.length) ' ')

end Uptime.Text
