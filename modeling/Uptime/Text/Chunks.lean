import Uptime.Text.Blank

/-!
# Chunks of bounded size

A message that is too long for one post is cut into chunks. Chunks end at line ends wherever
a line fits, and a line that does not fit is cut between two characters. Sizes are counted in
UTF-8 bytes.

## Main definitions

* `byteCount`: the size of a text.
* `linesOf`: the lines of a text, each with its newline.
* `piecesOf`: a line in pieces of at most the limit.
* `chunksOf`, `chunks`: the chunks of a text.
-/

namespace Uptime.Text

/-- The number of UTF-8 bytes of a text. -/
def byteCount : List Char → Nat
  | [] => 0
  | c :: cs => c.utf8Size + byteCount cs

@[simp] theorem byteCount_nil : byteCount [] = 0 := rfl

@[simp] theorem byteCount_cons (c : Char) (cs : List Char) :
    byteCount (c :: cs) = c.utf8Size + byteCount cs := rfl

@[simp] theorem byteCount_append (s t : List Char) :
    byteCount (s ++ t) = byteCount s + byteCount t := by
  induction s with
  | nil => simp
  | cons c s ih => simp [ih, Nat.add_assoc]

/-- Puts a character in front of the first part of a list of parts. -/
def consToFirst (c : Char) : List (List Char) → List (List Char)
  | [] => [[c]]
  | part :: parts => (c :: part) :: parts

@[simp] theorem flatten_consToFirst (c : Char) (parts : List (List Char)) :
    (consToFirst c parts).flatten = c :: parts.flatten := by
  cases parts <;> rfl

/-- The lines of a text. Every line keeps its newline; what follows the last newline is a
line only if it is not empty. -/
def linesOf : List Char → List (List Char)
  | [] => []
  | c :: cs => if c = '\n' then [c] :: linesOf cs else consToFirst c (linesOf cs)

/-- No line is lost. -/
@[simp] theorem flatten_linesOf (cs : List Char) : (linesOf cs).flatten = cs := by
  induction cs with
  | nil => rfl
  | cons c cs ih => by_cases h : c = '\n' <;> simp [linesOf, h, ih]

/-- Cuts a text into pieces: the first may have `room` bytes and the others `limit`, and each
but the last is as long as it may be. -/
def piecesOf (limit : Nat) : (room : Nat) → List Char → List (List Char)
  | _, [] => [[]]
  | room, c :: cs =>
    if c.utf8Size ≤ room then consToFirst c (piecesOf limit (room - c.utf8Size) cs)
    else [] :: consToFirst c (piecesOf limit (limit - c.utf8Size) cs)

/-- No piece is lost. -/
@[simp] theorem flatten_piecesOf (limit room : Nat) (cs : List Char) :
    (piecesOf limit room cs).flatten = cs := by
  induction cs generalizing room with
  | nil => rfl
  | cons c cs ih => by_cases h : c.utf8Size ≤ room <;> simp [piecesOf, h, ih]

/-- Chunks that are complete, and the one that is being filled. -/
structure Filling where
  /-- The complete chunks, in order. -/
  full : List (List Char) := []
  /-- The chunk that further lines may join. -/
  current : List Char := []

/-- The filling when one more line does not fit: the current chunk is complete. -/
def Filling.flush (filling : Filling) : Filling :=
  ⟨filling.full ++ [filling.current], []⟩

/-- Adds a line to a filling. A line that does not fit beside the current chunk opens a new
one, and a line that is too long for any chunk is cut into pieces. -/
def Filling.addLine (limit : Nat) (filling : Filling) (line : List Char) : Filling :=
  let filling :=
    if filling.current ≠ [] ∧ limit < byteCount filling.current + byteCount line then
      filling.flush
    else filling
  let pieces := piecesOf limit limit line
  ⟨filling.full ++ pieces.dropLast, filling.current ++ pieces.getLast?.getD []⟩

/-- All chunks of a filling. -/
def Filling.chunks (filling : Filling) : List (List Char) :=
  if filling.current = [] then filling.full else filling.flush.full

/-- No chunk is smaller than four bytes, so that every character fits. -/
def leastChunkSize : Nat := 4

/-- The chunks of a text under a limit in bytes. A text within the limit is one chunk as it
stands; the chunks of a longer one lose their trailing newlines, and vanish if nothing
else is in them. -/
def chunksOf (limit : Nat) (cs : List Char) : List (List Char) :=
  let limit := max limit leastChunkSize
  if byteCount cs ≤ limit then [cs]
  else
    ((linesOf cs).foldl (Filling.addLine limit) {}).chunks
      |>.map (trimEndChars (· == '\n'))
      |>.filter (· ≠ [])

/-- The chunks of a text, as texts. -/
def chunks (limit : Nat) (s : String) : List String :=
  (chunksOf limit s.toList).map String.ofList

end Uptime.Text
