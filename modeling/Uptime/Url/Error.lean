/-!
# Errors of addresses

## Main definitions

* `UrlError`: why a text is no address.
* `UrlError.message`: the text of an error.
-/

namespace Uptime

/-- Why a text is no address. -/
inductive UrlError
  /-- The host is missing. -/
  | noHost
  /-- The host is no name of a host. -/
  | hostName
  /-- The host has a character that none may have. -/
  | hostCharacter
  /-- The host is a number of the old form that is out of bounds. -/
  | ipv4
  /-- The host is no number of the new form. -/
  | ipv6
  /-- The port is no number or too large. -/
  | port
  /-- There is no scheme. -/
  | noScheme
  /-- Nothing can be relative to the address. -/
  | opaqueBase
  deriving DecidableEq, Repr

/-- The text of an error. -/
def UrlError.message : UrlError → String
  | noHost => "empty host"
  | hostName => "invalid international domain name"
  | hostCharacter => "invalid domain character"
  | ipv4 => "invalid IPv4 address"
  | ipv6 => "invalid IPv6 address"
  | port => "invalid port number"
  | noScheme => "relative URL without a base"
  | opaqueBase => "relative URL with a cannot-be-a-base base"

end Uptime
