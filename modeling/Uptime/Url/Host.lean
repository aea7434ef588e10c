import Uptime.Url.Error
import Uptime.Url.HostName
import Uptime.Url.Numeric

/-!
# Hosts

## Main definitions

* `Host`: a name or a number.
* `Host.ofText`: the host that a text of a well-known scheme stands for.
* `Host.ofOpaqueText`: the host that a text of any other scheme stands for.
-/

namespace Uptime

/-- A host. -/
inductive Host
  /-- A name, by its labels. -/
  | name (labels : List String)
  /-- A name that nothing is known about. -/
  | opaqueName (text : String)
  /-- A number of the old form, by its bytes. -/
  | ipv4 (bytes : List Nat)
  /-- A number of the new form, by its groups. -/
  | ipv6 (groups : List Nat)
  deriving DecidableEq, Repr

/-- The text between square brackets; `none` within if the second one is missing. -/
def bracketed? : List Char → Option (Option (List Char))
  | '[' :: rest => if rest.getLast? = some ']' then some (some rest.dropLast) else some none
  | _ => none

namespace Host

/-- The bytes that a text stands for, in which two digits after a percent sign are a byte. -/
def percentDecode : List Char → List UInt8
  | [] => []
  | c :: cs =>
    match c, cs with
    | '%', hi :: lo :: rest =>
      match Text.hexValue? hi, Text.hexValue? lo with
      | some hi, some lo => .ofNat (hi * 16 + lo) :: percentDecode rest
      | _, _ => 37 :: percentDecode (hi :: lo :: rest)
    | c, cs => c.toString.toUTF8.toList ++ percentDecode cs

/-- The host of the number between brackets. -/
def ofBrackets : Option (List Char) → Except UrlError Host
  | none => .error .ipv6
  | some text =>
    match Numeric.ipv6? text with
    | some groups => .ok (.ipv6 groups)
    | none => .error .ipv6

/-- The host with labels. -/
def ofLabels (labels : List (List Char)) : Except UrlError Host :=
  if labels = [[]] then .error .noHost
  else if Numeric.endsInNumber labels then
    match Numeric.ipv4? labels with
    | some bytes => .ok (.ipv4 bytes)
    | none => .error .ipv4
  else .ok (.name (labels.map String.ofList))

/-- The host that a text of a well-known scheme stands for. -/
def ofText (text : List Char) : Except UrlError Host :=
  match bracketed? text with
  | some inner => ofBrackets inner
  | none =>
    match String.fromUTF8? ⟨(percentDecode text).toArray⟩ with
    | none => .error .hostName
    | some text =>
      match HostName.labels? text with
      | none => .error .hostName
      | some labels => ofLabels labels

/-- Whether a host of any other scheme may not have a character. -/
def isRefused (c : Char) : Bool := "\x00\t\n\x0d #/:<>?@[\\]^|".toList.contains c

/-- The host that a text of any other scheme stands for. -/
def ofOpaqueText (text : List Char) : Except UrlError Host :=
  match bracketed? text with
  | some inner => ofBrackets inner
  | none =>
    if text.any isRefused then .error .hostCharacter
    else .ok (.opaqueName (String.ofList text))

end Host

end Uptime
