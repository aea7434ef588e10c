import Uptime.Text.Direction
import Uptime.Text.Joining
import Uptime.Url.HostName.Characters

/-!
# Order and joining within names of hosts

What a name looks like must tell which characters it has. So the characters that join letters and
keep them apart may only stand where they show, and where letters from right to left occur, each
label keeps to rules by which it stays in one piece.

## Main definitions

* `HostName.joinersShow`: the rule for the two joiners.
* `HostName.keepsTogether`: the rule for a label.
* `HostName.isOrdered`: the rule for all labels of a name.
-/

namespace Uptime.HostName

open Text

/-- Whether the first character that is not transparent satisfies a condition. -/
def meets (p : Joining → Bool) (cs : List Char) : Bool :=
  match (cs.map Joining.ofChar).dropWhile (· = .transparent) with
  | [] => false
  | joining :: _ => p joining

/-- Whether a joiner shows between the characters before it, the last one first, and those after
it. Both show after a sign that takes a vowel away, and a non-joiner also where two letters would
be joined. -/
def joinerShows (c : Char) (before after : List Char) : Bool :=
  before.head?.any isVirama ||
    (c = nonJoiner && meets Joining.joinsNext before && meets Joining.joinsPrevious after)

/-- Whether all joiners in a text show that comes after others, the last one first. -/
def joinersShowAfter (before : List Char) : List Char → Bool
  | [] => true
  | c :: cs =>
    ((c ≠ nonJoiner && c ≠ joiner) || joinerShows c before cs) && joinersShowAfter (c :: before) cs

/-- Whether all joiners in a label show. -/
def joinersShow (label : List Char) : Bool := joinersShowAfter [] label

/-- Whether directions can end a label: the last one, marks apart, is among the given ones. -/
def endsIn (allowed directions : List Direction) : Bool :=
  match directions.reverse.dropWhile (· = .mark) with
  | [] => false
  | direction :: _ => allowed.contains direction

/-- Whether a label with these directions stays in one piece: it begins with a letter, goes on in
the direction of that letter, and ends with a letter or a number. Only one kind of number may
stand among letters from right to left. -/
def keepsTogether : List Direction → Bool
  | [] => true
  | .left :: rest =>
    rest.all (fun d => d ≠ .right && d ≠ .arabicNumber)
      && endsIn [.left, .europeanNumber] (.left :: rest)
  | .right :: rest =>
    rest.all (· ≠ .left)
      && endsIn [.right, .arabicNumber, .europeanNumber] (.right :: rest)
      && !(rest.contains .arabicNumber && rest.contains .europeanNumber)
  | _ => false

/-- Whether a direction makes a rule for all labels necessary. -/
def isFromRight (d : Direction) : Bool := d = .right || d = .arabicNumber

/-- Whether the labels of a name stay in one piece, if there is anything in them that is written
from right to left. -/
def isOrdered (labels : List (List Char)) : Bool :=
  let directions := labels.map fun label => label.map Direction.ofChar
  !(directions.any fun label => label.any isFromRight) || directions.all keepsTogether

end Uptime.HostName
