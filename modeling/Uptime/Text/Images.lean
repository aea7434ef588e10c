import Uptime.Text.Blank
import Uptime.Text.Hex
import Uptime.Text.Parts

/-!
# Tables of images

A table that assigns texts to characters is made of rows, each for code points that follow one
another. The lines of a row are words between blanks, one for each code point: a dash if it has no
image, or the code points of its image in hexadecimal with a plus between them.

## Main definitions

* `ImageRow`: a row.
* `ImageRow.ofLines`: the row that lines stand for.
* `imageIn?`: the image of a character in a table.
-/

namespace Uptime.Text

/-- The images of code points that follow one another. -/
structure ImageRow where
  /-- The first code point. -/
  first : Nat
  /-- The images; `none` for a code point without one. -/
  images : Array (Option (List Char))
  deriving Repr

namespace ImageRow

/-- The image that a word stands for. -/
def imageOfWord (word : List Char) : Option (List Char) :=
  (partsAt '+' word).mapM fun part => (hexNumber? part).map Char.ofNat

/-- The row that lines stand for. -/
def ofLines (first : Nat) (lines : List String) : ImageRow :=
  ⟨first, (lines.flatMap fun line => (wordsOf line.toList).map imageOfWord).toArray⟩

/-- The image of a character in a row. -/
def image? (row : ImageRow) (c : Char) : Option (List Char) :=
  if row.first ≤ c.toNat then (row.images[c.toNat - row.first]?).join else none

/-- The characters of a row with their images. -/
def toList (row : ImageRow) : List (Char × List Char) :=
  row.images.toList.zipIdx.filterMap fun (image, i) =>
    image.map fun image => (Char.ofNat (row.first + i), image)

end ImageRow

/-- The image of a character in a table. -/
def imageIn? (rows : Array ImageRow) (c : Char) : Option (List Char) :=
  rows.toList.findSome? fun row => row.image? c

end Uptime.Text
