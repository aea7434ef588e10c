/-!
# Parts between marks

A text is cut at every occurrence of a character; the parts may be empty, and there is one more
of them than there are occurrences.

## Main definitions

* `partsAt`: the parts of a text.
-/

namespace Uptime.Text

/-- The parts of a text between the occurrences of a character. -/
def partsAt (mark : Char) : List Char → List (List Char)
  | [] => [[]]
  | c :: cs =>
    if c = mark then [] :: partsAt mark cs
    else
      match partsAt mark cs with
      | [] => [[c]]
      | part :: parts => (c :: part) :: parts

end Uptime.Text
