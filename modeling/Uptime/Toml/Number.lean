import Uptime.Text.Hex
import Uptime.Toml.Value

/-!
# Numbers and points in time

The TOML values that begin with a digit or a sign.

## Main definitions

* `Toml.readDecimal`: a decimal numeral with underscores.
* `Toml.readInteger`, `Toml.readFloat`: the two kinds of numbers.
* `Toml.readDatetime`: a point in time.
* `Toml.readNumeric`: any of them.
-/

namespace Uptime.Toml

/-! ### Digits -/

/-- Reads a run of digits in which single underscores may stand between digits. The digits
found come in `digits`, the last one first; there is at least one of them. -/
def readDigitsFrom (isDigit : Char → Bool) (digits : List Char) :
    List Char → Option (List Char × List Char)
  | '_' :: c :: cs => if isDigit c then readDigitsFrom isDigit (c :: digits) cs else none
  | ['_'] => none
  | c :: cs =>
    if isDigit c then readDigitsFrom isDigit (c :: digits) cs
    else some (digits.reverse, c :: cs)
  | [] => some (digits.reverse, [])

/-- Reads a run of digits in which single underscores may stand between digits. -/
def readDigits (isDigit : Char → Bool) : List Char → Option (List Char × List Char)
  | c :: cs => if isDigit c then readDigitsFrom isDigit [c] cs else none
  | [] => none

/-- Reads an exact number of decimal digits. -/
def readFixed (width : Nat) (cs : List Char) : Option (Nat × List Char) :=
  let digits := cs.take width
  if digits.length = width ∧ digits.all Char.isDigit then
    some (digits.foldl (fun n c => 10 * n + (c.toNat - '0'.toNat)) 0, cs.drop width)
  else none

/-- Reads a character. -/
def readChar (c : Char) : List Char → Option (List Char)
  | d :: cs => if d = c then some cs else none
  | [] => none

/-! ### Whole numbers -/

/-- A sign, if there is one. -/
def readSign : List Char → Option Char × List Char
  | '+' :: cs => (some '+', cs)
  | '-' :: cs => (some '-', cs)
  | cs => (none, cs)

/-- Reads an unsigned decimal numeral without leading zeros. -/
def readDecimal : List Char → Option (List Char × List Char)
  | '0' :: cs => some (['0'], cs)
  | cs => readDigits Char.isDigit cs

/-- The value of a run of digits in some base. -/
def valueOf (base : Nat) (digits : List Char) : Nat :=
  digits.foldl (fun n c => base * n + (Text.hexValue? c).getD 0) 0

/-- A whole number, if it has 64 bits. -/
def integerOf? (value : Int) : Option Toml :=
  if -9223372036854775808 ≤ value ∧ value ≤ 9223372036854775807 then some (.int value) else none

/-- Reads a whole number with one of the marks of another base. -/
def readMarked (base : Nat) (isDigit : Char → Bool) (cs : List Char) :
    Option (Toml × List Char) := do
  let (digits, cs) ← readDigits isDigit cs
  return (← integerOf? (valueOf base digits), cs)

/-- Reads a whole number. -/
def readInteger : List Char → Option (Toml × List Char)
  | '0' :: 'x' :: cs => readMarked 16 (fun c => (Text.hexValue? c).isSome) cs
  | '0' :: 'o' :: cs => readMarked 8 (fun c => '0' ≤ c && c ≤ '7') cs
  | '0' :: 'b' :: cs => readMarked 2 (fun c => c = '0' || c = '1') cs
  | cs => do
    let (sign, cs) := readSign cs
    let (digits, cs) ← readDecimal cs
    let value : Int := valueOf 10 digits
    return (← integerOf? (if sign = some '-' then -value else value), cs)

/-! ### Other numbers -/

/-- The parts of a number with a fraction or an exponent. -/
structure Scientific where
  /-- The sign. -/
  sign : Option Char
  /-- The digits before the point. -/
  whole : List Char
  /-- The digits behind it. -/
  fraction : List Char
  /-- The exponent. -/
  exponent : Int

/-- The text of a number. -/
def Scientific.numeral (n : Scientific) : String :=
  String.ofList (n.sign.toList ++ n.whole ++ '.' :: n.fraction) ++ "e" ++ toString n.exponent

/-- Whether a number without its sign is too great for a float of 64 bits: it is rounded to the
power 2^1024. -/
def Scientific.overflows (n : Scientific) : Bool :=
  let digits := n.whole ++ n.fraction
  let value := valueOf 10 digits
  let exponent := n.exponent - n.fraction.length
  let limit := Nat.pow 2 1024 - Nat.pow 2 970
  if value = 0 then false
  else if exponent + digits.length < 0 then false
  else if 400 + digits.length < exponent then true
  else if 0 ≤ exponent then limit ≤ value * Nat.pow 10 exponent.toNat
  else limit * Nat.pow 10 (-exponent).toNat ≤ value

/-- Reads a fraction after its point. -/
def readFraction : List Char → Option (List Char × List Char) := readDigits Char.isDigit

/-- Reads an exponent, if there is one. -/
def readExponent : List Char → Option (Option Int × List Char)
  | c :: cs =>
    if c = 'e' ∨ c = 'E' then do
      let (sign, cs) := readSign cs
      let (digits, cs) ← readDigits Char.isDigit cs
      let value : Int := valueOf 10 digits
      return (some (if sign = some '-' then -value else value), cs)
    else some (none, c :: cs)
  | [] => some (none, [])

/-- Reads a number with a fraction, an exponent or both. -/
def readScientific (cs : List Char) : Option (Scientific × List Char) := do
  let (sign, cs) := readSign cs
  let (whole, cs) ← readDecimal cs
  match cs with
  | '.' :: cs =>
    let (fraction, cs) ← readFraction cs
    let (exponent, cs) ← readExponent cs
    return (⟨sign, whole, fraction, exponent.getD 0⟩, cs)
  | cs =>
    let (exponent, cs) ← readExponent cs
    return (⟨sign, whole, [], ← exponent⟩, cs)

/-- Whether a number goes on behind its whole part. -/
def isScientific (cs : List Char) : Bool :=
  match readDecimal (readSign cs).2 with
  | some (_, c :: _) => c = '.' || c = 'e' || c = 'E'
  | _ => false

/-- Reads a number that is not whole. One that is too great is refused, unless it is
negative. -/
def readFloat (cs : List Char) : Option (Toml × List Char) :=
  match (readSign cs).2 with
  | 'i' :: 'n' :: 'f' :: rest => some (.float "inf", rest)
  | 'n' :: 'a' :: 'n' :: rest => some (.float "nan", rest)
  | _ => do
    let (number, cs) ← readScientific cs
    if number.overflows ∧ number.sign ≠ some '-' then none
    else return (.float number.numeral, cs)

/-! ### Points in time -/

/-- The number of days of a month. -/
def daysInMonth (year month : Nat) : Nat :=
  if month = 2 then
    if year % 4 = 0 ∧ (year % 100 ≠ 0 ∨ year % 400 = 0) then 29 else 28
  else if month = 4 ∨ month = 6 ∨ month = 9 ∨ month = 11 then 30
  else 31

/-- Skips a date. -/
def skipDate? (cs : List Char) : Option (List Char) := do
  let (year, cs) ← readFixed 4 cs
  let (month, cs) ← readFixed 2 (← readChar '-' cs)
  let (day, cs) ← readFixed 2 (← readChar '-' cs)
  if 1 ≤ month ∧ month ≤ 12 ∧ 1 ≤ day ∧ day ≤ daysInMonth year month then some cs else none

/-- Skips a fraction of a second, if there is one. -/
def skipSecondFraction : List Char → List Char
  | '.' :: c :: cs => if c.isDigit then cs.dropWhile Char.isDigit else '.' :: c :: cs
  | cs => cs

/-- Skips a time of day. -/
def skipTime? (cs : List Char) : Option (List Char) := do
  let (hour, cs) ← readFixed 2 cs
  let (minute, cs) ← readFixed 2 (← readChar ':' cs)
  let (second, cs) ← readFixed 2 (← readChar ':' cs)
  if hour ≤ 23 ∧ minute ≤ 59 ∧ second ≤ 60 then some (skipSecondFraction cs) else none

/-- Skips an offset from universal time, if there is one. -/
def skipOffset? : List Char → Option (List Char)
  | c :: cs =>
    if c = 'Z' ∨ c = 'z' then some cs
    else if c = '+' ∨ c = '-' then do
      let (hour, cs) ← readFixed 2 cs
      let (minute, cs) ← readFixed 2 (← readChar ':' cs)
      if hour ≤ 23 ∧ minute ≤ 59 then some cs else none
    else some (c :: cs)
  | [] => some []

/-- Skips the time that may follow a date. -/
def skipTimeOfDate? (cs : List Char) : Option (List Char) :=
  match cs with
  | c :: rest =>
    if c = 'T' ∨ c = 't' ∨ c = ' ' then
      match skipTime? rest with
      | some rest => skipOffset? rest
      | none => some cs
    else some cs
  | [] => some []

/-- Whether a text begins like a date: with four digits and a hyphen. -/
def isDate (cs : List Char) : Bool :=
  match readFixed 4 cs with
  | some (_, '-' :: _) => true
  | _ => false

/-- Whether a text begins like a time of day: with two digits and a colon. -/
def isTime (cs : List Char) : Bool :=
  match readFixed 2 cs with
  | some (_, ':' :: _) => true
  | _ => false

/-- Reads a point in time. -/
def readDatetime (cs : List Char) : Option (Toml × List Char) := do
  let rest ← if isDate cs then (skipDate? cs).bind skipTimeOfDate? else skipTime? cs
  return (.datetime (String.ofList (cs.take (cs.length - rest.length))), rest)

/-! ### All of them -/

/-- Whether a text begins like a number without digits. -/
def isWordNumber (cs : List Char) : Bool :=
  let rest := (readSign cs).2
  "inf".toList.isPrefixOf rest || "nan".toList.isPrefixOf rest

/-- Reads a number or a point in time. -/
def readNumeric (cs : List Char) : Option (Toml × List Char) :=
  if isDate cs || isTime cs then readDatetime cs
  else if isWordNumber cs || isScientific cs then readFloat cs
  else readInteger cs

end Uptime.Toml
