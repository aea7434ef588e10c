import Uptime.Text.Marks

/-!
# Directions of writing

The direction in which a character is written, as far as it matters for the order of a line in
which both directions meet.

## Main definitions

* `Direction`: the classes.
* `Direction.ofChar`: the class of a character.
-/

namespace Uptime.Text

/-- How a character takes part in the order of a line. -/
inductive Direction
  /-- A letter that is written from left to right. -/
  | left
  /-- A letter that is written from right to left. -/
  | right
  /-- A digit of Arabic numbers. -/
  | arabicNumber
  /-- A digit of European numbers. -/
  | europeanNumber
  /-- A mark, which follows the character before it. -/
  | mark
  /-- A sign without a direction of its own. -/
  | neutral
  deriving DecidableEq, Repr

namespace Direction

/-- The classes of characters other than marks and than letters from left to right: first and
last code point, and the class. A range may run on over code points without a character and over
characters whose folded form is another one. -/
def ranges : CodePoints.Classes Direction := #[
  (0x0000, 0x002F, .neutral), (0x0030, 0x0039, .europeanNumber), (0x003A, 0x0060, .neutral),
  (0x007B, 0x00D7, .neutral), (0x00F7, 0x00F7, .neutral), (0x02B9, 0x02BA, .neutral),
  (0x02C2, 0x02CF, .neutral), (0x02D2, 0x02ED, .neutral), (0x02EF, 0x02FF, .neutral),
  (0x0375, 0x0375, .neutral), (0x03F6, 0x03F6, .neutral), (0x058A, 0x058F, .neutral),
  (0x05BE, 0x05F4, .right), (0x0606, 0x0607, .neutral), (0x0608, 0x0608, .right),
  (0x0609, 0x060A, .neutral), (0x060B, 0x060B, .right), (0x060C, 0x060C, .neutral),
  (0x060D, 0x060D, .right), (0x060E, 0x060F, .neutral), (0x061B, 0x064A, .right),
  (0x0660, 0x0669, .arabicNumber), (0x066A, 0x066A, .neutral), (0x066B, 0x066C, .arabicNumber),
  (0x066D, 0x06D5, .right), (0x06DE, 0x06DE, .neutral), (0x06E5, 0x06E6, .right),
  (0x06E9, 0x06E9, .neutral), (0x06EE, 0x06EF, .right), (0x06F0, 0x06F9, .europeanNumber),
  (0x06FA, 0x07F5, .right), (0x07F6, 0x07F9, .neutral), (0x07FA, 0x08C9, .right),
  (0x09F2, 0x09F3, .neutral), (0x09FB, 0x09FB, .neutral), (0x0AF1, 0x0AF1, .neutral),
  (0x0BF3, 0x0BFA, .neutral), (0x0C78, 0x0C7E, .neutral), (0x0E3F, 0x0E3F, .neutral),
  (0x0F3A, 0x0F3D, .neutral), (0x1390, 0x1399, .neutral), (0x1400, 0x1400, .neutral),
  (0x169B, 0x169C, .neutral), (0x17DB, 0x17DB, .neutral), (0x17F0, 0x180A, .neutral),
  (0x1940, 0x1945, .neutral), (0x19DE, 0x19FF, .neutral), (0x200C, 0x214D, .neutral),
  (0x218A, 0x2335, .neutral), (0x237B, 0x2394, .neutral), (0x2396, 0x26AB, .neutral),
  (0x26AD, 0x27FF, .neutral), (0x2900, 0x2BFF, .neutral), (0x2CE5, 0x2CEA, .neutral),
  (0x2CF9, 0x2CFF, .neutral), (0x2E00, 0x3004, .neutral), (0x3008, 0x3020, .neutral),
  (0x3030, 0x3030, .neutral), (0x3037, 0x3037, .neutral), (0x303D, 0x303F, .neutral),
  (0x30A0, 0x30A0, .neutral), (0x30FB, 0x30FB, .neutral), (0x31C0, 0x31E5, .neutral),
  (0x4DC0, 0x4DFF, .neutral), (0xA490, 0xA4C6, .neutral), (0xA60D, 0xA60F, .neutral),
  (0xA673, 0xA67F, .neutral), (0xA700, 0xA721, .neutral), (0xA788, 0xA788, .neutral),
  (0xA828, 0xA82B, .neutral), (0xA838, 0xA839, .neutral), (0xA874, 0xA877, .neutral),
  (0xAB6A, 0xAB6B, .neutral), (0xFBB2, 0xFBC2, .right), (0xFBC3, 0xFE46, .neutral),
  (0xFE73, 0xFE73, .right), (0x10101, 0x10101, .neutral), (0x10140, 0x1018C, .neutral),
  (0x10190, 0x101A0, .neutral), (0x102E1, 0x102FB, .europeanNumber), (0x10800, 0x1091B, .right),
  (0x1091F, 0x1091F, .neutral), (0x10920, 0x10B35, .right), (0x10B39, 0x10B3F, .neutral),
  (0x10B40, 0x10D23, .right), (0x10D30, 0x10D39, .arabicNumber), (0x10D40, 0x10D4F, .right),
  (0x10D6E, 0x10D6E, .neutral), (0x10D6F, 0x10D8F, .right), (0x10E60, 0x10E7E, .arabicNumber),
  (0x10E80, 0x10EC7, .right), (0x10ED0, 0x10ED8, .neutral), (0x10F00, 0x10FF6, .right),
  (0x11052, 0x11065, .neutral), (0x11660, 0x1166C, .neutral), (0x11FD5, 0x11FF1, .neutral),
  (0x16FE2, 0x16FE2, .neutral), (0x1CC00, 0x1CEF0, .neutral), (0x1D1E9, 0x1D245, .neutral),
  (0x1D300, 0x1D356, .neutral), (0x1E2FF, 0x1E2FF, .neutral), (0x1E800, 0x1ED3D, .right),
  (0x1EEF0, 0x1F12F, .neutral), (0x1F16D, 0x1F16F, .neutral), (0x1F1AD, 0x1F1AD, .neutral),
  (0x1F260, 0x1FBFA, .neutral)]

/-- Marks without a place of their own that count as letters. -/
def isLetterLike (c : Char) : Bool :=
  [0x0CBF, 0x0CC6, 0x11A07, 0x11A08, 0x11C3F].contains c.toNat

/-- The class of a character. -/
def ofChar (c : Char) : Direction :=
  if (isNonspacingMark c && !isLetterLike c) || c.toNat = 0x1171E then .mark
  else (ranges.class? c).getD .left

end Direction

end Uptime.Text
