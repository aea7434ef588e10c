import Uptime.Text.CodePoints

/-!
# Quoted text

The form in which diagnostics quote a value that somebody typed: between double quotes, with
an escape for everything that could not be read back from a terminal.

## Main definitions

* `isUnseen`, `joinsBefore`: the characters that get an escape.
* `quoteChar`: the written form of one character.
* `quote`: the written form of a text.
-/

namespace Uptime.Text

/-- Lower-case hexadecimal digits without leading zeros. -/
def hexDigits (n : Nat) : List Char := Nat.toDigits 16 n

/-- Whether a character has no visible form: apart from the general categories without one,
the letters of Hangul that only fill a place have none. -/
def isUnseen (c : Char) : Bool :=
  CodePoints.unprintable.contains c || ['\u115F', '\u1160', '\u3164', '\uFFA0'].contains c

/-- Whether a character joins the one before it. The half-width sound marks of Katakana extend
a grapheme, but they have a width of their own and stand by themselves. -/
def joinsBefore (c : Char) : Bool :=
  CodePoints.extenders.contains c && c ≠ '\uFF9E' && c ≠ '\uFF9F'

/-- The written form of a character between double quotes. Besides the usual short escapes,
characters without a visible form and characters that would join the one before them are
written by their code point. -/
def quoteChar (c : Char) : List Char :=
  if c = '\x00' then ['\\', '0']
  else if c = '\t' then ['\\', 't']
  else if c = '\r' then ['\\', 'r']
  else if c = '\n' then ['\\', 'n']
  else if c = '"' then ['\\', '"']
  else if c = '\\' then ['\\', '\\']
  else if joinsBefore c || isUnseen c then
    ['\\', 'u', '\x7b'] ++ hexDigits c.toNat ++ ['\x7d']
  else [c]

/-- A text between double quotes, with escapes. -/
def quote (s : String) : String :=
  String.ofList (['"'] ++ s.toList.flatMap quoteChar ++ ['"'])

end Uptime.Text
