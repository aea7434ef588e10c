import Uptime.History.Check
import Uptime.Text.Chunks
import Uptime.Text.Markup

/-!
# Replies about the check log

Rows of the check log are shown as lines of fixed columns, in as many messages as it takes to
keep each within the size of a post. Every message repeats the header.

## Main definitions

* `LogReply.rowLine`: the line of a row.
* `LogReply.pack`: lines in bodies of bounded size.
* `LogReply.render`: the messages for some rows.
* `LogReply.header`: the header for the rows of a target.
-/

namespace Uptime.LogReply

open Text

/-- The size in bytes that a message should not exceed before its body is escaped. -/
def messageBudget : Nat := 3800

/-- The least size that a body may have, whatever the header takes. -/
def leastBody : Nat := 256

/-- The line of a row, with its newline. -/
def rowLine (r : Row) : List Char :=
  (r.checkedAt.text ++ "  " ++ leftAligned 4 r.status.word ++ "  "
    ++ leftAligned 21 r.endpoint ++ "  " ++ r.reason ++ "\n").toList

/-- Packs lines into bodies: a line that does not fit behind the current body opens the next
one, and a body is never empty. -/
def packFrom (limit : Nat) (current : List Char) : List (List Char) → List (List Char)
  | [] => if current = [] then [] else [current]
  | line :: lines =>
    if current ≠ [] ∧ limit < byteCount current + byteCount line then
      current :: packFrom limit line lines
    else packFrom limit (current ++ line) lines

/-- Packs lines into bodies of at most `limit` bytes, as far as the lines allow. -/
def pack (limit : Nat) (lines : List (List Char)) : List (List Char) := packFrom limit [] lines

/-- The size that bodies may have under a header. -/
def bodyLimit (header : String) : Nat :=
  max leastBody (messageBudget - (byteCount header.toList + 6 + 6))

/-- One message out of `total`. -/
def message (header : String) (total position : Nat) (body : List Char) : String :=
  let counter :=
    if total = 1 then "" else " (" ++ toString position ++ "/" ++ toString total ++ ")"
  header ++ counter ++ "\n"
    ++ preformatted (String.ofList (escapeChars (trimEndChars (· == '\n') body)))

/-- The messages for some rows. -/
def render (header : String) (rows : List Row) : List String :=
  if rows = [] then [header ++ "\n" ++ preformatted "(empty)"]
  else
    let bodies := pack (bodyLimit header) (rows.map rowLine)
    bodies.zipIdx.map fun (body, i) => message header bodies.length (i + 1) body

/-- The header for the rows of a target: its name, and how often it was up and down. -/
def header (target : String) (rows : List Row) : String :=
  "Track: " ++ bold (escape target) ++ " | rows: " ++ toString rows.length
    ++ " | up: " ++ toString (rows.countP fun r => r.status = .up)
    ++ " | down: " ++ toString (rows.countP fun r => r.status = .down)

end Uptime.LogReply
