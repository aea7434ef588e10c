import Uptime.Text.Casing
import Uptime.Text.Folding.Ideographs
import Uptime.Text.Folding.Letters
import Uptime.Text.Folding.Presentation
import Uptime.Text.Folding.Symbols

/-!
# Folded characters

Characters that differ in case, style, width or place only have one folded form. For most it is
their lower-case form. The capitals of Cherokee are older than its small letters, which therefore
fold to the capitals.

## Main definitions

* `fold`: the folded form of a character.
-/

namespace Uptime.Text

/-- Whether a character is a capital of Cherokee. -/
def isCherokeeCapital (c : Char) : Bool := 0x13A0 ≤ c.toNat && c.toNat ≤ 0x13F5

/-- The folded form of a character. -/
def fold (c : Char) : List Char :=
  let image? :=
    (imageIn? Folding.letters c).or <| (imageIn? Folding.symbols c).or <|
      (imageIn? Folding.ideographs c).or <| imageIn? Folding.presentation c
  match image? with
  | some image => image
  | none => if isCherokeeCapital c then [c] else [lowerSimple c]

end Uptime.Text
