/-!
# Targets

A target is an endpoint that is watched under a name. Its identity is what a probe needs to
know; its definition is the identity together with a switch.

## Main definitions

* `Identity`: name, address and port.
* `Definition`: the durable form of a target.
* `Definition.Usable`: whether a definition can be watched.
-/

namespace Uptime

/-- What is probed, and under which name. -/
structure Identity where
  /-- The name under which the target is reported. -/
  name : String
  /-- The host, as a name or as a numeric address. -/
  address : String
  /-- The port. -/
  port : UInt16
  deriving DecidableEq, Repr, Inhabited

/-- Address and port in one text. -/
def Identity.endpoint (id : Identity) : String := id.address ++ ":" ++ toString id.port.toNat

/-- The durable definition of a target. -/
structure Definition where
  /-- The name under which the target is reported. -/
  name : String
  /-- The host, as a name or as a numeric address. -/
  address : String
  /-- The port. -/
  port : UInt16
  /-- Whether the target is to be watched. -/
  enabled : Bool := true
  deriving DecidableEq, Repr, Inhabited

namespace Definition

/-- The identity of a definition. -/
def identity (d : Definition) : Identity := ⟨d.name, d.address, d.port⟩

/-- A definition can be watched if it is enabled and none of its parts is missing. -/
def Usable (d : Definition) : Prop :=
  d.enabled = true ∧ d.name ≠ "" ∧ d.address ≠ "" ∧ d.port ≠ 0

instance (d : Definition) : Decidable d.Usable :=
  inferInstanceAs (Decidable (_ ∧ _ ∧ _ ∧ _))

end Definition

end Uptime
