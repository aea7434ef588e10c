/-!
# Text for terminals

A terminal takes more from a text than characters to show: control characters, and sequences
that begin with an escape and set colours, titles and the like. A text that goes to a file is
shown without them. An escape begins a sequence wherever it stands, also inside of another one.

## Main definitions

* `Terminal.bold`: an emphasised text.
* `Terminal.State`, `Terminal.State.next`: what is open at a place in a text.
* `Terminal.plain`: what is left of a text where there is no terminal.
-/

namespace Uptime.Terminal

/-- The character that begins a sequence. -/
def escapeChar : Char := '\x1b'

/-- An emphasised text. -/
def bold (s : String) : String := "\x1b[1m" ++ s ++ "\x1b[0m"

/-- A sequence that a blank may stand in. -/
inductive Sequence
  /-- After the escape. -/
  | introduced
  /-- After the escape and a character that announces one more. -/
  | extended
  /-- In the parameters of a control sequence. -/
  | control
  deriving DecidableEq, Repr

/-- What is open at a place in a text. -/
inductive State
  /-- Nothing. -/
  | ground
  /-- A sequence. -/
  | within (sequence : Sequence)
  /-- A sequence in which a blank was met: what follows is shown up to the next control
  character, and the sequence goes on after that. -/
  | interrupted (sequence : Sequence)
  /-- The beginning of a string for a device. -/
  | deviceIntroduced
  /-- The parameters of a string for a device. -/
  | deviceParameters
  /-- The parameters of a string for a device, after a character that ends them. -/
  | deviceExtended
  /-- A string that ends at the byte for the end of a string. -/
  | string
  /-- A command for the terminal itself, which ends at a bell. -/
  | command
  deriving DecidableEq, Repr

/-- Whether a character is a blank of ASCII. -/
def isBlankAscii (c : Char) : Bool := [' ', '\t', '\n', '\x0c', '\x0d'].contains c

/-- Whether a character of ASCII has a visible form or is a blank. -/
def isShownAscii (c : Char) : Bool :=
  (0x20 ≤ c.toNat && c.toNat < 0x7F) || isBlankAscii c

/-- Whether a byte of a character is the one that ends a string. -/
def endsString (c : Char) : Bool := c.toString.toUTF8.toList.contains 0x9C

/-- The state after a visible character of ASCII in a sequence. -/
def Sequence.next (c : Char) : Sequence → State
  | introduced =>
    if c.toNat < 0x30 then .within .extended
    else
      match c with
      | '[' => .within .control
      | ']' => .command
      | 'P' => .deviceIntroduced
      | 'X' | '^' | '_' => .string
      | _ => .ground
  | extended => if c.toNat < 0x30 then .within .extended else .ground
  | control => if c.toNat < 0x40 then .within .control else .ground

/-- What is shown of a character inside of a sequence, and the state after it. -/
def Sequence.step (c : Char) (sequence : Sequence) : Option Char × State :=
  if c.toNat < 0x20 then
    if isBlankAscii c then (some c, .interrupted sequence) else (none, .within sequence)
  else if c.toNat < 0x7F then (none, sequence.next c)
  else (none, .within sequence)

/-- What is shown of a character, and the state after it. -/
def State.next (c : Char) (s : State) : Option Char × State :=
  if c = escapeChar then (none, .within .introduced)
  else if c = '\x18' ∨ c = '\x1a' then (none, .ground)
  else
    match s with
    | .ground => (if 0x80 ≤ c.toNat || isShownAscii c then some c else none, .ground)
    | .within sequence => sequence.step c
    | .interrupted sequence =>
      if 0x80 ≤ c.toNat then (some c, .ground)
      else if isShownAscii c then (some c, .interrupted sequence)
      else (none, .within sequence)
    | .deviceIntroduced =>
      if c.toNat < 0x20 ∨ 0x7F ≤ c.toNat then (none, .deviceIntroduced)
      else if c.toNat < 0x30 then (none, .deviceExtended)
      else if c.toNat < 0x40 then (none, .deviceParameters)
      else (none, .string)
    | .deviceParameters =>
      if c.toNat < 0x20 ∨ 0x7F ≤ c.toNat then (none, .deviceParameters)
      else if c.toNat < 0x30 then (none, .deviceExtended)
      else if c.toNat < 0x3C then (none, .deviceParameters)
      else (none, .string)
    | .deviceExtended =>
      if c.toNat < 0x30 ∨ 0x7F ≤ c.toNat then (none, .deviceExtended) else (none, .string)
    | .string => (none, if endsString c then .ground else .string)
    | .command => (none, if c = '\x07' then .ground else .command)

/-- What is shown of a text that begins in a state. -/
def shown : State → List Char → List Char
  | _, [] => []
  | s, c :: cs =>
    match s.next c with
    | (some d, s) => d :: shown s cs
    | (none, s) => shown s cs

/-- What is left of a text where there is no terminal. -/
def plain (text : String) : String := String.ofList (shown .ground text.toList)

end Uptime.Terminal
