import Uptime.Json.Basic
import Uptime.Text.Hex

/-!
# Reading JSON

The reader of JSON texts. It accepts exactly the grammar of the standard. A string with an
unpaired surrogate is read as a broken one, and an object with such a name as a broken object:
whether either is refused is left to those who use the value.

## Main definitions

* `Json.readString`: the rest of a string after its opening quote.
* `Json.readNumber`: a number.
* `Json.readValue`: any value; the fuel bounds its length.
* `Json.ofText?`: the value of a whole text.
-/

namespace Uptime.Json

/-- Drops the blanks that may stand between tokens. -/
def skipBlanks (cs : List Char) : List Char :=
  cs.dropWhile fun c => c = ' ' || c = '\t' || c = '\n' || c = '\r'

/-- The character of a short escape. -/
def shortEscape? : Char → Option Char
  | '"' => some '"'
  | '\\' => some '\\'
  | '/' => some '/'
  | 'b' => some '\x08'
  | 'f' => some '\x0c'
  | 'n' => some '\n'
  | 'r' => some '\r'
  | 't' => some '\t'
  | _ => none

/-- A part of a string: a character, or the code unit of an escape. -/
inductive Part
  /-- A character as it stands. -/
  | char (c : Char)
  /-- A UTF-16 code unit. -/
  | unit (n : Nat)

/-- Reads a string after its opening quote, up to and including the closing one. The parts
come in `parts`, the last one first. -/
def readParts (parts : List Part) : List Char → Option (List Part × List Char)
  | [] => none
  | '"' :: cs => some (parts.reverse, cs)
  | '\\' :: 'u' :: a :: b :: c :: d :: cs =>
    match Text.hexNumber? [a, b, c, d] with
    | some n => readParts (.unit n :: parts) cs
    | none => none
  | '\\' :: c :: cs =>
    match shortEscape? c with
    | some d => readParts (.char d :: parts) cs
    | none => none
  | c :: cs => if c.toNat < 0x20 then none else readParts (.char c :: parts) cs

/-- The text of the parts, unless half of a surrogate pair is missing. The characters found
come in `cs`, the last one first. -/
def joinParts (cs : List Char) : List Part → Option (List Char)
  | [] => some cs.reverse
  | .char c :: parts => joinParts (c :: cs) parts
  | .unit n :: parts =>
    if 0xD800 ≤ n ∧ n < 0xDC00 then
      match parts with
      | .unit m :: parts =>
        if 0xDC00 ≤ m ∧ m < 0xE000 then
          joinParts (Char.ofNat (0x10000 + (n - 0xD800) * 0x400 + (m - 0xDC00)) :: cs) parts
        else none
      | _ => none
    else if 0xDC00 ≤ n ∧ n < 0xE000 then none
    else joinParts (Char.ofNat n :: cs) parts

/-- Reads a string after its opening quote. The text is missing if it is broken. -/
def readString (cs : List Char) : Option (Option String × List Char) := do
  let (parts, cs) ← readParts [] cs
  return ((joinParts [] parts).map String.ofList, cs)

/-- Splits off a run of digits. -/
def readDigits (cs : List Char) : List Char × List Char :=
  (cs.takeWhile Char.isDigit, cs.dropWhile Char.isDigit)

/-- Splits off a fraction, if there is one. -/
def readFraction : List Char → Option (List Char × List Char)
  | '.' :: cs =>
    match readDigits cs with
    | ([], _) => none
    | (digits, cs) => some ('.' :: digits, cs)
  | cs => some ([], cs)

/-- Splits off an exponent, if there is one. -/
def readExponent (cs : List Char) : Option (List Char × List Char) :=
  match cs with
  | e :: rest =>
    if e = 'e' ∨ e = 'E' then
      let (sign, rest) :=
        match rest with
        | '+' :: rest => (['+'], rest)
        | '-' :: rest => (['-'], rest)
        | rest => ([], rest)
      match readDigits rest with
      | ([], _) => none
      | (digits, rest) => some (e :: sign ++ digits, rest)
    else some ([], cs)
  | [] => some ([], [])

/-- The number with these parts. A negative zero and a number of more than 64 bits are no
integers. -/
def numberOf (negative : Bool) (digits fraction exponent : List Char) : Json :=
  let magnitude : Int := digits.foldl (fun n c => 10 * n + (c.toNat - '0'.toNat : Nat)) 0
  let value := if negative then -magnitude else magnitude
  let isInt := fraction = [] ∧ exponent = [] ∧ ¬(negative = true ∧ magnitude = 0)
    ∧ -9223372036854775808 ≤ value ∧ value ≤ 18446744073709551615
  if isInt then .int value
  else .float (String.ofList ((if negative then ['-'] else []) ++ digits ++ fraction ++ exponent))

/-- Reads a number. -/
def readNumber (cs : List Char) : Option (Json × List Char) := do
  let (negative, cs) :=
    match cs with
    | '-' :: cs => (true, cs)
    | cs => (false, cs)
  let (digits, cs) := readDigits cs
  if digits = [] ∨ (digits.head? = some '0' ∧ digits.length ≠ 1) then none
  else
    let (fraction, cs) ← readFraction cs
    let (exponent, cs) ← readExponent cs
    return (numberOf negative digits fraction exponent, cs)

/-- Reads a fixed word. -/
def readWord (word : String) (value : Json) (cs : List Char) : Option (Json × List Char) :=
  if word.toList.isPrefixOf cs then some (value, cs.drop word.length) else none

/-- The object with these members; it is broken if one of the names is missing. -/
def objectOf (members : List (Option String × Json)) : Json :=
  match members.mapM fun (name, value) => name.map (·, value) with
  | some members => .object members
  | none => .brokenObject

mutual

/-- Reads a value. -/
def readValue : (fuel : Nat) → List Char → Option (Json × List Char)
  | 0, _ => none
  | fuel + 1, cs =>
    match skipBlanks cs with
    | '"' :: cs => do
      let (text, cs) ← readString cs
      match text with
      | some text => return (.string text, cs)
      | none => return (.brokenString, cs)
    | '[' :: cs =>
      match skipBlanks cs with
      | ']' :: cs => some (.array [], cs)
      | cs => readItems fuel [] cs
    | '\x7b' :: cs =>
      match skipBlanks cs with
      | '\x7d' :: cs => some (.object [], cs)
      | cs => readMembers fuel [] cs
    | 't' :: cs => readWord "rue" (.bool true) cs
    | 'f' :: cs => readWord "alse" (.bool false) cs
    | 'n' :: cs => readWord "ull" .null cs
    | cs => readNumber cs

/-- Reads the items of an array up to its bracket. The items found come in `items`, the last
one first. -/
def readItems : (fuel : Nat) → List Json → List Char → Option (Json × List Char)
  | 0, _, _ => none
  | fuel + 1, items, cs => do
    let (item, cs) ← readValue fuel cs
    match skipBlanks cs with
    | ',' :: cs => readItems fuel (item :: items) cs
    | ']' :: cs => return (.array (item :: items).reverse, cs)
    | _ => none

/-- Reads the members of an object up to its brace. The members found come in `members`, the
last one first. -/
def readMembers :
    (fuel : Nat) → List (Option String × Json) → List Char → Option (Json × List Char)
  | 0, _, _ => none
  | fuel + 1, members, cs =>
    match skipBlanks cs with
    | '"' :: cs => do
      let (name, cs) ← readString cs
      match skipBlanks cs with
      | ':' :: cs => do
        let (value, cs) ← readValue fuel cs
        match skipBlanks cs with
        | ',' :: cs => readMembers fuel ((name, value) :: members) cs
        | '\x7d' :: cs => return (objectOf ((name, value) :: members).reverse, cs)
        | _ => none
      | _ => none
    | _ => none

end

/-- The value of a whole text. -/
def ofText? (text : String) : Option Json :=
  let cs := text.toList
  match readValue (cs.length + 1) cs with
  | some (value, rest) => if skipBlanks rest = [] then some value else none
  | none => none

end Uptime.Json
