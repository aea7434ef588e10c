import Uptime.Text.CombiningClass
import Uptime.Text.Composition.Parts

/-!
# Composed texts

A letter with accents can be written in one character or in several, and accents at different
places in any order. The composed form of a text has as few characters as can be, in a fixed
order. Syllables of Hangul are composed by a rule: of a consonant, a vowel and perhaps another
consonant.

## Main definitions

* `decompose`: the parts of a character.
* `order`: puts marks into their order.
* `composite?`: the character that two others can be written as.
* `compose`: the composed form of a text.
-/

namespace Uptime.Text

namespace Hangul

/-- The number of vowels. -/
def vowels : Nat := 21

/-- The number of consonants at the end of a syllable, none included. -/
def finals : Nat := 28

/-- The first syllable. -/
def firstSyllable : Nat := 0xAC00

/-- The consonant that begins a syllable, by its number. -/
def initial? (c : Char) : Option Nat :=
  if 0x1100 ≤ c.toNat ∧ c.toNat ≤ 0x1112 then some (c.toNat - 0x1100) else none

/-- The vowel of a syllable, by its number. -/
def vowel? (c : Char) : Option Nat :=
  if 0x1161 ≤ c.toNat ∧ c.toNat ≤ 0x1175 then some (c.toNat - 0x1161) else none

/-- The consonant that ends a syllable, by its number. -/
def final? (c : Char) : Option Nat :=
  if 0x11A8 ≤ c.toNat ∧ c.toNat ≤ 0x11C2 then some (c.toNat - 0x11A7) else none

/-- A syllable, by its number. -/
def syllable? (c : Char) : Option Nat :=
  if firstSyllable ≤ c.toNat ∧ c.toNat ≤ 0xD7A3 then some (c.toNat - firstSyllable) else none

/-- The parts of a syllable. -/
def parts? (c : Char) : Option (List Char) :=
  (syllable? c).map fun n =>
    let final := n % finals
    let start := [Char.ofNat (0x1100 + n / (vowels * finals)),
      Char.ofNat (0x1161 + n / finals % vowels)]
    if final = 0 then start else start ++ [Char.ofNat (0x11A7 + final)]

/-- The syllable that two characters make: two letters, or a syllable that still lacks its last
consonant and that consonant. -/
def composite? (a b : Char) : Option Char :=
  match initial? a, vowel? b with
  | some l, some v => some (Char.ofNat (firstSyllable + (l * vowels + v) * finals))
  | _, _ =>
    match syllable? a, final? b with
    | some n, some t => if n % finals = 0 then some (Char.ofNat (a.toNat + t)) else none
    | _, _ => none

end Hangul

/-- The parts of a character; one that is not composed is its own only part. -/
def decompose (c : Char) : List Char :=
  ((Hangul.parts? c).or (imageIn? Composition.parts c)).getD [c]

/-- Puts a character before others that are in order, behind the marks among them that have to
come first. -/
def place (c : Char) : List Char → List Char
  | [] => [c]
  | d :: ds =>
    if 0 < combiningClass d ∧ combiningClass d < combiningClass c then d :: place c ds
    else c :: d :: ds

/-- Puts marks into the order of their classes; marks of one class keep their order. -/
def order : List Char → List Char
  | [] => []
  | c :: cs => place c (order cs)

/-- The composed characters with their parts. -/
def composites : List (Char × List Char) := Composition.parts.toList.flatMap ImageRow.toList

/-- The character that two others can be written as. -/
def composite? (a b : Char) : Option Char :=
  (Hangul.composite? a b).or <|
    (composites.find? fun composite => composite.2 = decompose a ++ [b]).map Prod.fst

/-- The composed form of a text in order that begins with a letter `base` and the marks `passed`,
which were not composed with it and come with the last one first. A mark is composed with the
letter before it if no mark between them is in the way. -/
def composeAfter (base : Char) (passed : List Char) : List Char → List Char
  | [] => base :: passed.reverse
  | c :: cs =>
    let composite? :=
      if passed.head?.all fun d => combiningClass d < combiningClass c then composite? base c
      else none
    match composite? with
    | some d => composeAfter d passed cs
    | none =>
      if combiningClass c = 0 then base :: passed.reverse ++ composeAfter c [] cs
      else composeAfter base (c :: passed) cs

/-- Composes a text in order. -/
def composeOrdered : List Char → List Char
  | [] => []
  | c :: cs => if combiningClass c = 0 then composeAfter c [] cs else c :: composeOrdered cs

/-- The composed form of a text. -/
def compose (cs : List Char) : List Char := composeOrdered (order (cs.flatMap decompose))

end Uptime.Text
