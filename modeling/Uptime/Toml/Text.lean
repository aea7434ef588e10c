import Uptime.Text.Hex

/-!
# Characters, blanks and strings of TOML

## Main definitions

* `Toml.isAllowed`: the characters that may stand in strings and comments.
* `Toml.skipBlanks`, `Toml.skipTrivia`: what may stand between tokens.
* `Toml.readLineEnd`: the end of a statement.
* `Toml.readText`: a string in any of its four forms.
-/

namespace Uptime.Toml

/-- The characters that may stand in strings and comments: no control character except the
tab. -/
def isAllowed (c : Char) : Bool := c = '\t' || (0x20 ≤ c.toNat && c.toNat ≠ 0x7F)

/-- Skips blanks within a line. -/
def skipBlanks (cs : List Char) : List Char := cs.dropWhile fun c => c = ' ' || c = '\t'

/-- Skips a comment, if there is one, up to the end of its line. -/
def skipComment : List Char → List Char
  | '#' :: cs => cs.dropWhile isAllowed
  | cs => cs

/-- Reads the end of a line. -/
def readNewline? : List Char → Option (List Char)
  | '\n' :: cs => some cs
  | '\r' :: '\n' :: cs => some cs
  | _ => none

/-- Reads the end of a statement: blanks and perhaps a comment, and then the end of the line or
of the document. -/
def readLineEnd? (cs : List Char) : Option (List Char) :=
  match skipComment (skipBlanks cs) with
  | [] => some []
  | cs => readNewline? cs

/-- Skips blanks, line ends and whole comments. -/
def skipTrivia : (fuel : Nat) → List Char → List Char
  | 0, cs => cs
  | fuel + 1, cs =>
    match skipBlanks cs with
    | '#' :: rest =>
      match readNewline? (rest.dropWhile isAllowed) with
      | some cs => skipTrivia fuel cs
      | none => '#' :: rest
    | cs =>
      match readNewline? cs with
      | some cs => skipTrivia fuel cs
      | none => cs

/-! ### Strings -/

/-- The character with a code point, if there is one. -/
def charOf? (n : Nat) : Option Char := if h : n.isValidChar then some (.ofNatAux n h) else none

/-- Reads the rest of an escape sequence after its backslash. -/
def readEscape : List Char → Option (Char × List Char)
  | 'b' :: cs => some ('\x08', cs)
  | 't' :: cs => some ('\t', cs)
  | 'n' :: cs => some ('\n', cs)
  | 'f' :: cs => some ('\x0c', cs)
  | 'r' :: cs => some ('\r', cs)
  | '"' :: cs => some ('"', cs)
  | '\\' :: cs => some ('\\', cs)
  | 'u' :: cs => readCodePoint 4 cs
  | 'U' :: cs => readCodePoint 8 cs
  | _ => none
where
  /-- Reads a code point of a fixed number of hexadecimal digits. -/
  readCodePoint (width : Nat) (cs : List Char) : Option (Char × List Char) := do
    let digits := cs.take width
    if digits.length = width then
      return (← charOf? (← Text.hexNumber? digits), cs.drop width)
    else none

/-- Reads a string in double quotes after the opening one. The characters found come in
`text`, the last one first. -/
def readBasic : (fuel : Nat) → List Char → List Char → Option (List Char × List Char)
  | 0, _, _ => none
  | _ + 1, _, [] => none
  | fuel + 1, text, c :: cs =>
    if c = '"' then some (text.reverse, cs)
    else if c = '\\' then do
      let (c, cs) ← readEscape cs
      readBasic fuel (c :: text) cs
    else if isAllowed c then readBasic fuel (c :: text) cs
    else none

/-- Reads a string in single quotes after the opening one. -/
def readLiteral (cs : List Char) : Option (List Char × List Char) :=
  let (text, cs) := cs.span fun c => isAllowed c && c ≠ '\''
  match cs with
  | '\'' :: cs => some (text, cs)
  | _ => none

/-- Skips the blanks and line ends after a backslash at the end of a line. -/
def skipFolded? (cs : List Char) : Option (List Char) := do
  let cs ← readNewline? (skipBlanks cs)
  return skipFrom cs.length cs
where
  /-- Skips blanks and line ends. -/
  skipFrom : (fuel : Nat) → List Char → List Char
    | 0, cs => cs
    | fuel + 1, cs =>
      match readNewline? (skipBlanks cs) with
      | some cs => skipFrom fuel cs
      | none => skipBlanks cs

/-- Reads a string of several lines up to its three closing quotes, before which two more may
stand as part of the text. Line ends are read as newlines. In double quotes, escapes are
resolved. The characters found come in `text`, the last one first. -/
def readLines (quote : Char) : (fuel : Nat) → List Char → List Char → Option (List Char × List Char)
  | 0, _, _ => none
  | _ + 1, _, [] => none
  | fuel + 1, text, c :: cs =>
    if c = quote then
      let (more, rest) := cs.span (· = quote)
      let count := more.length + 1
      if count < 3 then readLines quote fuel (List.replicate count quote ++ text) rest
      else if count ≤ 5 then some ((List.replicate (count - 3) quote ++ text).reverse, rest)
      else none
    else if c = '\\' ∧ quote = '"' then
      match skipFolded? cs with
      | some cs => readLines quote fuel text cs
      | none => do
        let (c, cs) ← readEscape cs
        readLines quote fuel (c :: text) cs
    else if isAllowed c then readLines quote fuel (c :: text) cs
    else do
      let cs ← readNewline? (c :: cs)
      readLines quote fuel ('\n' :: text) cs

/-- The text after the line end that may follow three opening quotes. -/
def skipFirstNewline (cs : List Char) : List Char := (readNewline? cs).getD cs

/-- Reads a string on one line, in double or single quotes. -/
def readShortText : List Char → Option (String × List Char)
  | '"' :: cs => do
    let (text, cs) ← readBasic (cs.length + 1) [] cs
    return (String.ofList text, cs)
  | '\'' :: cs => do
    let (text, cs) ← readLiteral cs
    return (String.ofList text, cs)
  | _ => none

/-- Reads a string in any of its forms. -/
def readText : List Char → Option (String × List Char)
  | '"' :: '"' :: '"' :: cs => do
    let (text, cs) ← readLines '"' (cs.length + 1) [] (skipFirstNewline cs)
    return (String.ofList text, cs)
  | '\'' :: '\'' :: '\'' :: cs => do
    let (text, cs) ← readLines '\'' (cs.length + 1) [] (skipFirstNewline cs)
    return (String.ofList text, cs)
  | cs => readShortText cs

end Uptime.Toml
