import Uptime.Target.Basic
import Uptime.Text.Blank
import Uptime.Text.Quoted

/-!
# Entering a target

Names, addresses and ports come from a configuration or from an operator. They are trimmed
and checked before they become a definition; the first condition that fails decides the
error.

## Main definitions

* `EntryError`, `EntryError.message`: the reasons to refuse an entry.
* `checkName`: the trimmed name.
* `Definition.ofEntry`: the definition of an entry.
-/

namespace Uptime

/-- Why an entry is refused. -/
inductive EntryError
  /-- The name is blank. -/
  | emptyName
  /-- The name has too many characters. -/
  | nameTooLong
  /-- The address is blank. -/
  | emptyAddress
  /-- The address has a blank inside. -/
  | blankInAddress (address : String)
  /-- The port is no port number. -/
  | portOutOfRange (port : Int)
  deriving DecidableEq, Repr

/-- The number of characters that a name may have. -/
def maxNameLength : Nat := 100

namespace EntryError

/-- The text of an entry error. -/
def message : EntryError → String
  | emptyName => "target name is required"
  | nameTooLong => "target name too long (max " ++ toString maxNameLength ++ " characters)"
  | emptyAddress => "target address is required"
  | blankInAddress address =>
    "target address cannot contain whitespace: " ++ Text.quote address
  | portOutOfRange port =>
    "target port must be between 1 and 65535, got " ++ toString port

end EntryError

/-- The trimmed name, if it has between one character and the most allowed. -/
def checkName (name : String) : Except EntryError String :=
  let name := Text.trim name
  if name = "" then .error .emptyName
  else if maxNameLength < name.length then .error .nameTooLong
  else .ok name

/-- The trimmed address, if it is not empty and has no blank inside. -/
def checkAddress (address : String) : Except EntryError String :=
  let address := Text.trim address
  if address = "" then .error .emptyAddress
  else if address.toList.any Text.isBlank then .error (.blankInAddress address)
  else .ok address

/-- The port number, if it is between 1 and 65535. -/
def checkPort (port : Int) : Except EntryError UInt16 :=
  if 1 ≤ port ∧ port ≤ 65535 then .ok (UInt16.ofNat port.toNat)
  else .error (.portOutOfRange port)

/-- The definition of an entry. -/
def Definition.ofEntry (name address : String) (port : Int) : Except EntryError Definition := do
  let name ← checkName name
  let address ← checkAddress address
  let port ← checkPort port
  return ⟨name, address, port, true⟩

end Uptime
