import Uptime.Text.Hex

/-!
# Numeric hosts

A host may be a number: in the old form up to four numbers between dots, of which the last one
fills what is left of 32 bits, or in the new form eight groups of 16 bits between colons.

## Main definitions

* `Numeric.number?`: a decimal, octal or hexadecimal number.
* `Numeric.endsInNumber`: whether labels can only be a number of the old form.
* `Numeric.ipv4?`, `Numeric.ipv6?`: the two forms.
-/

namespace Uptime.Numeric

/-- The value of digits to a base, after a value. -/
def digitsFrom? (base value : Nat) : List Char → Option Nat
  | [] => some value
  | c :: cs =>
    match Text.hexValue? c with
    | some d => if d < base then digitsFrom? base (value * base + d) cs else none
    | none => none

/-- A number: hexadecimal after `0x`, octal after another zero, else decimal. The digits after
`0x` may be missing. -/
def number? : List Char → Option Nat
  | [] => none
  | '0' :: 'x' :: digits | '0' :: 'X' :: digits => digitsFrom? 16 0 digits
  | '0' :: c :: digits => digitsFrom? 8 0 (c :: digits)
  | digits => digitsFrom? 10 0 digits

/-- The labels without the empty one that a dot at the end leaves. -/
def withoutRoot (labels : List (List Char)) : List (List Char) :=
  if labels.getLast? = some [] then labels.dropLast else labels

/-- Whether labels can only be a number of the old form, because the last one is a number. -/
def endsInNumber (labels : List (List Char)) : Bool :=
  match (withoutRoot labels).getLast? with
  | none => false
  | some label => (label ≠ [] && label.all Char.isDigit) || (number? label).isSome

/-- A number as so many bytes. -/
def bytes : (count : Nat) → Nat → List Nat
  | 0, _ => []
  | count + 1, n => bytes count (n / 256) ++ [n % 256]

/-- The bytes of the host that labels of the old form stand for: the parts before the last one
are bytes, and the last one fills the rest. -/
def ipv4? (labels : List (List Char)) : Option (List Nat) := do
  let parts ← (withoutRoot labels).mapM number?
  let first := parts.dropLast
  let last ← parts.getLast?
  let left := 4 - first.length
  if 0 < left ∧ first.all (· < 256) ∧ last < Nat.pow 256 left then return first ++ bytes left last
  else none

/-- Four bytes at the end of the new form, written in decimal without zeros before them, as two
groups. -/
def decimalGroups? (text : List Char) : Option (List Nat) :=
  let byte? (label : List Char) : Option Nat := do
    let value ← digitsFrom? 10 0 label
    if label = [] ∨ (label.head? = some '0' ∧ label ≠ ['0']) ∨ 255 < value then none
    else some value
  match ((String.ofList text).splitOn ".").mapM fun label => byte? label.toList with
  | some [a, b, c, d] => some [a * 256 + b, c * 256 + d]
  | _ => none

/-- Reads groups of the new form after `before`; `gap` is the number of groups before a double
colon, which stands for one group of zero or more. -/
def groupsFrom? (before : List Nat) (gap : Option Nat) (text : List Char) :
    Option (List Nat × Option Nat) :=
  if text = [] then some (before, gap)
  else if 8 ≤ before.length then none
  else
    let digits := (text.takeWhile fun c => (Text.hexValue? c).isSome).take 4
    let value := (digitsFrom? 16 0 digits).getD 0
    match h : text.drop digits.length with
    | [] => some (before ++ [value], gap)
    | '.' :: _ =>
      if digits = [] ∨ 6 < before.length then none
      else (decimalGroups? text).map fun groups => (before ++ groups, gap)
    | ':' :: rest =>
      if digits = [] then
        if gap.isSome then none else groupsFrom? (before ++ [0]) (some before.length) rest
      else if rest = [] then none
      else groupsFrom? (before ++ [value]) gap rest
    | _ => none
termination_by text.length
decreasing_by
  all_goals
    have := congrArg List.length h
    simp only [List.length_drop, List.length_cons] at this
    omega

/-- The groups of a host of the new form. The double colon becomes as many zeros as are
missing. -/
def ipv6? (text : List Char) : Option (List Nat) :=
  let groups? := match text with
    | ':' :: ':' :: rest => groupsFrom? [0] (some 0) rest
    | ':' :: _ => none
    | _ => groupsFrom? [] none text
  match groups? with
  | some (groups, some gap) =>
    some (groups.take gap ++ List.replicate (8 - groups.length) 0 ++ groups.drop gap)
  | some (groups, none) => if groups.length = 8 then some groups else none
  | none => none

end Uptime.Numeric
