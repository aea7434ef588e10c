import Uptime.Json.Reader
import Uptime.Target.Basic

/-!
# Definitions as JSON

A definition is written as an object with four members or as an array of four values. All four
must be there and have their types; other members of an object are ignored.

## Main definitions

* `Definition.ofJson?`: the definition that a value stands for.
* `Definition.ofJsonText?`: the definition that a text stands for.
-/

namespace Uptime.Definition

/-- The definition with these four values. -/
def ofValues? (name address port enabled : Json) : Option Definition := do
  return ⟨← name.string?, ← address.string?, ← port.port?, ← enabled.bool?⟩

/-- The definition that a value stands for. -/
def ofJson? : Json → Option Definition
  | .object members => do
    ofValues? (← Json.member? members "name") (← Json.member? members "address")
      (← Json.member? members "port") (← Json.member? members "enabled")
  | .array [name, address, port, enabled] => ofValues? name address port enabled
  | _ => none

/-- The definition that a text stands for. -/
def ofJsonText? (text : String) : Option Definition := (Json.ofText? text).bind ofJson?

end Uptime.Definition
