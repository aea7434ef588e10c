import Uptime.Url.HostName.Order
import Uptime.Url.Punycode

/-!
# Names of hosts

A name of a host is brought into its normal form and cut into labels at its dots. A label that
begins with `xn--` stands for another one, which must be in normal form itself.

## Main definitions

* `HostName.decode?`: the label that a label stands for.
* `HostName.isSound`: whether a label may stand in a name.
* `HostName.labels?`: the labels of a name.
-/

namespace Uptime.HostName

/-- The greatest length of a label with characters beyond ASCII. -/
def maxLabel : Nat := 1000

/-- The greatest length of a text that stands for a label. -/
def maxEncoded : Nat := 2000

/-- Whether a character is one of ASCII. -/
def isAscii (c : Char) : Bool := c.toNat < 0x80

/-- Whether a decoded label is in normal form and has a reason to be encoded. -/
def isNormal (label : List Char) : Bool :=
  label.all (fun c => image? c = some [c]) && Text.compose label = label && !label.all isAscii

/-- The label that a label stands for. -/
def decode? (label : List Char) : Option (List Char) :=
  match label with
  | 'x' :: 'n' :: '-' :: '-' :: text =>
    if text.all isAscii && text.length ≤ maxEncoded then
      (Punycode.decode? text).filter isNormal
    else none
  | _ => some label

/-- Whether a label may stand in a name. -/
def isSound (label : List Char) : Bool :=
  label.all (!isRefusedAscii ·)
    && !label.head?.any Text.isMark
    && joinersShow label
    && (label.all isAscii || label.length ≤ maxLabel)

/-- The labels of a name. -/
def labels? (name : String) : Option (List (List Char)) := do
  let labels := Text.partsAt '.' (← normalise? name.toList)
  let decoded ← labels.mapM decode?
  if decoded.all isSound && isOrdered decoded then some labels else none

end Uptime.HostName
