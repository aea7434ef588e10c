import Uptime.Text.Blank
import Uptime.Url.Host
import Uptime.Url.Path

/-!
# Addresses

The address of a service on the web, as it is typed by people: blanks around it, the case of the
scheme and too many or too few slashes do not matter.

## Main definitions

* `Url`: an address.
* `Url.ofText`: the address that a text stands for.
* `Url.below`: where a reference leads to from an address.
-/

namespace Uptime

/-- An address. -/
structure Url where
  /-- The scheme, in lower case. -/
  scheme : String
  /-- The host. -/
  host : Option Host := none
  /-- The port, if it is not the one of the scheme. -/
  port : Option UInt16 := none
  /-- The segments of the path; an address without a hierarchy has none. -/
  path : Option (List String) := none
  deriving DecidableEq, Repr

namespace Url

/-- The schemes whose addresses have a host, with their ports. -/
def wellKnown : List (String × Nat) :=
  [("http", 80), ("https", 443), ("ws", 80), ("wss", 443), ("ftp", 21)]

/-- Whether the scheme is well known, so that a backslash counts as a slash. -/
def isWellKnown (scheme : String) : Bool := scheme = "file" || (wellKnown.lookup scheme).isSome

/-- Whether a character may stand in a scheme after the first one. -/
def isSchemeChar (c : Char) : Bool := c.isAlphanum || c = '+' || c = '-' || c = '.'

/-- The scheme of a text and what follows its colon. -/
def scheme? (text : List Char) : Option (String × List Char) :=
  match text.takeWhile isSchemeChar, text.dropWhile isSchemeChar with
  | c :: cs, ':' :: rest =>
    if c.isAlpha then some (String.ofList ((c :: cs).map Char.toLower), rest) else none
  | _, _ => none

/-- Whether a character ends the part with the host. -/
def endsAuthority (known : Bool) (c : Char) : Bool :=
  c = '/' || c = '?' || c = '#' || (known && c = '\\')

/-- Whether a character is a slash of either kind. -/
def isSlash (c : Char) : Bool := c = '/' || c = '\\'

/-- What follows the credentials of a text, and whether there are any. -/
def skipCredentials (known : Bool) (text : List Char) : Except UrlError (Bool × List Char) :=
  let authority := text.takeWhile (!endsAuthority known ·)
  let credentials := (authority.reverse.dropWhile (· ≠ '@')).reverse
  let rest := text.drop credentials.length
  if credentials = [] then .ok (false, text)
  else if credentials = ['@'] then
    if rest.head?.any (endsAuthority known) then .error .noHost else .ok (false, rest)
  else .ok (decide (credentials ≠ [':', '@']), rest)

/-- The text of the host at the beginning of a text: up to a colon that stands outside of
brackets. -/
def hostText (known bracket : Bool) : List Char → List Char
  | [] => []
  | c :: cs =>
    if (c = ':' && !bracket) || endsAuthority known c then []
    else c :: hostText known (if c = '[' then true else if c = ']' then false else bracket) cs

/-- The host that a text stands for; only the less known schemes may do without. -/
def host? (known : Bool) (text : List Char) : Except UrlError (Option Host) :=
  if text = [] then if known then .error .noHost else .ok none
  else if known then (Host.ofText text).map some
  else (Host.ofOpaqueText text).map some

/-- The port at the beginning of a text. -/
def port? (text : List Char) : Except UrlError (Option Nat) :=
  let digits := text.takeWhile Char.isDigit
  let value := (Numeric.digitsFrom? 10 0 digits).getD 0
  if 65535 < value then .error .port
  else if (text.drop digits.length).head?.any (!endsAuthority true ·) then .error .port
  else .ok (if digits = [] then none else some value)

/-- The segments of a path after a host. -/
def pathSegments (known : Bool) (text : List Char) : List String :=
  match (UrlPath.split text).1 with
  | [] => if known then [""] else []
  | c :: cs =>
    UrlPath.append [] (UrlPath.pieces known (if endsAuthority known c then cs else c :: cs))

/-- The address with a host, from what follows the slashes. -/
def ofAuthority (scheme : String) (text : List Char) : Except UrlError Url := do
  let known := isWellKnown scheme
  let (credentials, rest) ← skipCredentials known text
  let hostText := hostText known false rest
  let host ← host? known hostText
  let rest := rest.drop hostText.length
  if host = none ∧ rest.head? = some ':' then throw .noHost
  let (port, rest) ←
    match rest with
    | ':' :: rest =>
      let port ← port? rest
      pure (port, rest.dropWhile Char.isDigit)
    | rest => pure (none, rest)
  if host = none ∧ credentials then throw .noHost
  let port := port.filter fun port => wellKnown.lookup scheme ≠ some port
  return { scheme, host, port := port.map UInt16.ofNat, path := some (pathSegments known rest) }

/-- Whether a text is the letter of a drive, which is no host. -/
def isDrive : List Char → Bool
  | [c, d] => c.isAlpha && (d = ':' || d = '|')
  | _ => false

/-- The address of a file, from what follows the colon. -/
def ofFile (text : List Char) : Except UrlError Url :=
  let without (text : List Char) : Url :=
    { scheme := "file", path := some (pathSegments true text) }
  match text with
  | a :: b :: rest =>
    let name := rest.takeWhile (!endsAuthority true ·)
    if !isSlash a || !isSlash b then .ok (without text)
    else if name = [] || isDrive name then .ok (without rest)
    else
      match Host.ofText name with
      | .error e => .error e
      | .ok host =>
        let host := if host = .name ["localhost"] then none else some host
        .ok { without (rest.drop name.length) with host }
  | _ => .ok (without text)

/-- The text of an address without what people add by mistake: control characters and spaces
around it, and tabs and line ends within. -/
def clean (text : String) : List Char :=
  let isOuter (c : Char) : Bool := c.toNat ≤ 0x20
  (Text.trimChars isOuter text.toList).filter fun c => c ≠ '\t' && c ≠ '\n' && c ≠ '\x0d'

/-- The address that a text stands for. -/
def ofText (text : String) : Except UrlError Url :=
  match scheme? (clean text) with
  | none => .error .noScheme
  | some (scheme, rest) =>
    if scheme = "file" then ofFile rest
    else if isWellKnown scheme then ofAuthority scheme (rest.dropWhile isSlash)
    else
      match rest with
      | '/' :: '/' :: rest => ofAuthority scheme rest
      | '/' :: _ => .ok { scheme, path := some (pathSegments false rest) }
      | _ => .ok { scheme }

/-- The address with a path that is a directory. -/
def asDirectory (u : Url) : Url := { u with path := u.path.map UrlPath.asDirectory }

/-- The path and the query to which a reference leads from an address. The reference must be a
relative path. -/
def below (u : Url) (reference : String) : Except UrlError String :=
  match u.path with
  | none => .error .opaqueBase
  | some path =>
    let (text, query) := UrlPath.split (clean reference)
    let path := UrlPath.append path.dropLast (UrlPath.pieces (isWellKnown u.scheme) text)
    let query := query.map fun query =>
      "?" ++ String.ofList (UrlPath.encode UrlPath.isEscapedInQuery query)
    .ok (UrlPath.text path ++ query.getD "")

end Url

end Uptime
