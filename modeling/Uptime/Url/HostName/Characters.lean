import Uptime.Text.Composition
import Uptime.Text.Folding

/-!
# Characters of names of hosts

A character of a name is left out, is refused, or stands for its folded form. Which characters of
ASCII a name may have is decided after that, because a folded form may bring one in and a mark may
take one away.

## Main definitions

* `HostName.image?`: what a character stands for.
* `HostName.normalise?`: the normal form of a name.
* `HostName.isRefusedAscii`: the characters of ASCII that no name may have.
-/

namespace Uptime

/-- Characters that are left out. -/
def Text.CodePoints.ignored : Text.CodePoints.Table := #[
  (0x00AD, 0x00AD), (0x034F, 0x034F), (0x115F, 0x1160), (0x17B4, 0x17B5), (0x180B, 0x180F),
  (0x200B, 0x200B), (0x2060, 0x2064), (0x206A, 0x206F), (0x3164, 0x3164), (0xFE00, 0xFE0F),
  (0xFEFF, 0xFEFF), (0xFFA0, 0xFFA0), (0x1BCA0, 0x1BCA3), (0x1D173, 0x1D17A),
  (0xE0100, 0xE01EF)]

/-- Characters with a visible form that no name may have: those that stand for a dot among others,
those that only describe a character, and the signs for a missing one. -/
def Text.CodePoints.unfitForHost : Text.CodePoints.Table := #[
  (0x2024, 0x2026), (0x2488, 0x249B), (0x2FF0, 0x2FFF), (0x31EF, 0x31EF), (0x33C2, 0x33C2),
  (0x33C7, 0x33C7), (0x33D8, 0x33D8), (0xFE12, 0xFE12), (0xFE19, 0xFE19), (0xFE30, 0xFE30),
  (0xFE52, 0xFE52), (0xFFFC, 0xFFFD), (0x1F100, 0x1F100)]

namespace HostName

/-- The character that keeps letters apart. -/
def nonJoiner : Char := '\u200C'

/-- The character that joins letters. -/
def joiner : Char := '\u200D'

/-- Whether a character beyond ASCII is refused as such. -/
def isRefused (c : Char) : Bool :=
  if c.toNat < 0x80 ∨ c = nonJoiner ∨ c = joiner then false
  else Text.CodePoints.unprintable.contains c || Text.CodePoints.unfitForHost.contains c

/-- What a character stands for; nothing if it is left out, and `none` if it is refused. -/
def image? (c : Char) : Option (List Char) :=
  if Text.CodePoints.ignored.contains c then some []
  else if isRefused c then none
  else some (Text.fold c)

/-- The normal form of a name, unless a character is refused. -/
def normalise? (name : List Char) : Option (List Char) :=
  (name.mapM image?).map fun images => Text.compose images.flatten

/-- Whether no name may have a character of ASCII. -/
def isRefusedAscii (c : Char) : Bool :=
  c.toNat ≤ 0x20 || c.toNat = 0x7F || "%#/:<>?@[\\]^|".toList.contains c

end HostName

end Uptime
