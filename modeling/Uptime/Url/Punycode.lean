/-!
# Punycode

A label with characters beyond ASCII is written as its ASCII characters, a dash, and a row of
numbers that say which other characters stand where. Each number counts how far the next
character is from the last one, over code points first and over places within the label second.

## Main definitions

* `Punycode.threshold`, `Punycode.adapt`: how digits are weighed, and how that changes.
* `Punycode.readNumber?`: one number.
* `Punycode.decode?`: the label that a text stands for.
-/

namespace Uptime.Punycode

/-- The value of a digit: the letters, then the ten figures. -/
def digit? (c : Char) : Option Nat :=
  if 'a' ≤ c ∧ c ≤ 'z' then some (c.toNat - 97)
  else if 'A' ≤ c ∧ c ≤ 'Z' then some (c.toNat - 65)
  else if '0' ≤ c ∧ c ≤ '9' then some (c.toNat - 48 + 26)
  else none

/-- The threshold of the digit at a place, for a bias; a digit below it is the last one. -/
def threshold (bias place : Nat) : Nat := min 26 (max 1 (36 * (place + 1) - bias))

/-- Brings a distance into the range of the bias, and counts the steps. -/
def settle (steps distance : Nat) : Nat :=
  if h : 455 < distance then settle (steps + 36) (distance / 35)
  else steps + 36 * distance / (distance + 38)
termination_by distance
decreasing_by exact Nat.div_lt_self (by omega) (by omega)

/-- The bias after a distance; `count` is the number of characters so far. -/
def adapt (first : Bool) (distance count : Nat) : Nat :=
  let distance := if first then distance / 700 else distance / 2
  settle 0 (distance + distance / count)

/-- Reads a number whose digits before `place` have the value `value`; `weight` is what the
digit at `place` counts. -/
def readNumber? (bias : Nat) :
    (place weight value : Nat) → List Char → Option (Nat × List Char)
  | _, _, _, [] => none
  | place, weight, value, c :: cs =>
    match digit? c with
    | none => none
    | some d =>
      let value := value + d * weight
      let t := threshold bias place
      if d < t then some (value, cs) else readNumber? bias (place + 1) (weight * (36 - t)) value cs

theorem length_of_readNumber? (bias : Nat) {place weight value n : Nat} {cs rest : List Char}
    (h : readNumber? bias place weight value cs = some (n, rest)) :
    rest.length < cs.length := by
  induction cs generalizing place weight value with
  | nil => simp [readNumber?] at h
  | cons c cs ih =>
    simp only [readNumber?] at h
    split at h
    · simp at h
    · split at h
      · simp only [Option.some.injEq, Prod.mk.injEq] at h
        simp [h.2]
      · have := ih h
        simp only [List.length_cons]
        omega

/-- Inserts the characters that the numbers in a text give into a label. `code` is the least
code point that may follow, `place` the place after the last insertion. -/
def insertAll? (bias code place : Nat) (label text : List Char) : Option (List Char) :=
  if text = [] then some label
  else
    match _h : readNumber? bias 0 1 0 text with
    | none => none
    | some (distance, rest) =>
      let count := label.length + 1
      let code := code + (place + distance) / count
      let place := (place + distance) % count
      if code.isValidChar then
        insertAll? (adapt (label.all fun c => c.toNat < 128) distance count) code (place + 1)
          (label.take place ++ Char.ofNat code :: label.drop place) rest
      else none
termination_by text.length
decreasing_by exact length_of_readNumber? bias _h

/-- The label that a text stands for. -/
def decode? (text : List Char) : Option (List Char) :=
  let numbers := (text.reverse.takeWhile (· ≠ '-')).reverse
  let basic := (text.reverse.dropWhile (· ≠ '-')).reverse.dropLast
  insertAll? 72 128 0 basic numbers

end Uptime.Punycode
