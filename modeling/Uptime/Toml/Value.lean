/-!
# TOML values

The values of TOML documents.

## Main definitions

* `Toml`: the values.
* `Toml.string?`, `Toml.bool?`, `Toml.int?`, `Toml.nat?`: typed views.
* `Toml.fields?`: the view of a value as a record.
-/

namespace Uptime

/-- A TOML value. Numbers with a fraction or an exponent and points in time are kept as they
are written. -/
inductive Toml
  /-- A string. -/
  | string (value : String)
  /-- A whole number of 64 bits. -/
  | int (value : Int)
  /-- Any other number. -/
  | float (numeral : String)
  /-- A truth value. -/
  | bool (value : Bool)
  /-- A date, a time or both. -/
  | datetime (text : String)
  /-- An array. -/
  | array (items : List Toml)
  /-- A table. -/
  | table (members : List (String × Toml))
  deriving Repr, Inhabited

namespace Toml

/-- The text of a string. -/
def string? : Toml → Option String
  | string value => some value
  | _ => none

/-- The value of a truth value. -/
def bool? : Toml → Option Bool
  | bool value => some value
  | _ => none

/-- The value of a whole number. -/
def int? : Toml → Option Int
  | int value => some value
  | _ => none

/-- The value of a whole number that is not negative. -/
def nat? : Toml → Option Nat
  | int value => if 0 ≤ value then some value.toNat else none
  | _ => none

/-- The items of an array. -/
def items? : Toml → Option (List Toml)
  | array items => some items
  | _ => none

/-- A value as a record with the given field names. A table gives the fields by name and an
array by position; what else it holds is ignored. A point in time is a record in which every
field is missing. -/
def fields? (names : List String) : Toml → Option (String → Option Toml)
  | table members => some fun name => members.lookup name
  | array items => some fun name => items[names.idxOf name]?
  | datetime _ => some fun _ => none
  | _ => none

end Toml

end Uptime
