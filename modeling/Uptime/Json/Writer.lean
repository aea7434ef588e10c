import Uptime.Json.Basic

/-!
# Writing JSON

The compact text of a JSON value.

## Main definitions

* `Json.writeString`: the text of a string.
* `Json.text`: the text of a value.
-/

namespace Uptime.Json

/-- The form of a character inside a string. -/
def writeChar (c : Char) : List Char :=
  if c = '"' then ['\\', '"']
  else if c = '\\' then ['\\', '\\']
  else if c = '\n' then ['\\', 'n']
  else if c = '\r' then ['\\', 'r']
  else if c = '\t' then ['\\', 't']
  else if c = '\x08' then ['\\', 'b']
  else if c = '\x0c' then ['\\', 'f']
  else if c.toNat < 0x20 then
    let digits := Nat.toDigits 16 c.toNat
    ['\\', 'u'] ++ List.replicate (4 - digits.length) '0' ++ digits
  else [c]

/-- The text of a string. -/
def writeString (s : String) : String :=
  "\"" ++ String.ofList (s.toList.flatMap writeChar) ++ "\""

mutual

/-- The text of a value. -/
def text : Json → String
  | null => "null"
  | bool value => if value then "true" else "false"
  | int value => toString value
  | float numeral => numeral
  | string value => writeString value
  | brokenString => "null"
  | array items => "[" ++ ",".intercalate (itemTexts items) ++ "]"
  | brokenObject => "null"
  | object members => "\x7b" ++ ",".intercalate (memberTexts members) ++ "\x7d"

/-- The texts of some values. -/
def itemTexts : List Json → List String
  | [] => []
  | item :: items => text item :: itemTexts items

/-- The texts of some members. -/
def memberTexts : List (String × Json) → List String
  | [] => []
  | (name, value) :: members =>
    (writeString name ++ ":" ++ text value) :: memberTexts members

end

end Uptime.Json
