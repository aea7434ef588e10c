/-!
# JSON values

The values of JSON texts. Objects keep their members in the order of the text, repeated ones
included, because some readers must refuse a repetition.

## Main definitions

* `Json`: the values.
* `Json.member?`: the value of a member that occurs once.
* `Json.string?`, `Json.bool?`, `Json.int64?`: typed views.
-/

namespace Uptime

/-- A JSON value. -/
inductive Json
  /-- The value `null`. -/
  | null
  /-- A truth value. -/
  | bool (value : Bool)
  /-- A number without fraction and exponent that fits into 64 bits, signed or not. -/
  | int (value : Int)
  /-- Any other number, by its numeral. -/
  | float (numeral : String)
  /-- A string. -/
  | string (value : String)
  /-- A string in which half of a surrogate pair is missing, so that it stands for no text. -/
  | brokenString
  /-- An array. -/
  | array (items : List Json)
  /-- An object. -/
  | object (members : List (String × Json))
  /-- An object in which the name of a member is a broken string. -/
  | brokenObject
  deriving Repr, Inhabited

namespace Json

/-- How often a member is looked up in vain or with success. -/
inductive Member
  /-- There is no such member. -/
  | absent
  /-- There is one. -/
  | present (value : Json)
  /-- There are several. -/
  | repeated

/-- The member of a name among the members of an object. -/
def member (members : List (String × Json)) (name : String) : Member :=
  match members.filter (·.1 = name) with
  | [] => .absent
  | [(_, value)] => .present value
  | _ => .repeated

/-- The value of a member that must occur exactly once. -/
def member? (members : List (String × Json)) (name : String) : Option Json :=
  match member members name with
  | .present value => some value
  | _ => none

/-- The value of a member that may be missing but must not be repeated. -/
def optionalMember? (members : List (String × Json)) (name : String) : Option Json :=
  match member members name with
  | .absent => some .null
  | .present value => some value
  | .repeated => none

/-- The text of a string. -/
def string? : Json → Option String
  | string value => some value
  | _ => none

/-- The value of a truth value. -/
def bool? : Json → Option Bool
  | bool value => some value
  | _ => none

/-- The value of a whole number between two bounds. -/
def intBetween? (lo hi : Int) : Json → Option Int
  | int value => if lo ≤ value ∧ value ≤ hi then some value else none
  | _ => none

/-- The value of a signed whole number of 64 bits. -/
def int64? (j : Json) : Option Int := j.intBetween? (-9223372036854775808) 9223372036854775807

/-- The value of a port number. -/
def port? (j : Json) : Option UInt16 := (j.intBetween? 0 65535).map fun n => .ofNat n.toNat

/-- A value that may be null. -/
def nullable? {α : Type} (read : Json → Option α) : Json → Option (Option α)
  | null => some none
  | j => (read j).map some

end Json

end Uptime
