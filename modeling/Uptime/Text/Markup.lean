/-!
# Markup

Chat messages are written in a small subset of HTML. Names and addresses that come from
outside are escaped before they enter a message, so that none of their characters can be
read as a tag or an entity.

## Main definitions

* `substitute`: the replacement of one character by a text.
* `escapeChars`, `escape`: the escaped form of a text.
* `bold`, `code`, `preformatted`: a text inside a tag.
-/

namespace Uptime.Text

/-- Replaces every occurrence of a character by a text. -/
def substitute (c : Char) (entity : List Char) (cs : List Char) : List Char :=
  cs.flatMap fun d => if d = c then entity else [d]

@[simp] theorem substitute_nil (c : Char) (entity : List Char) : substitute c entity [] = [] :=
  rfl

@[simp] theorem substitute_cons (c : Char) (entity : List Char) (d : Char) (cs : List Char) :
    substitute c entity (d :: cs)
      = (if d = c then entity else [d]) ++ substitute c entity cs := rfl

@[simp] theorem substitute_append (c : Char) (entity s t : List Char) :
    substitute c entity (s ++ t) = substitute c entity s ++ substitute c entity t := by
  simp [substitute]

/-- The escaped form of a text. The ampersand goes first, because the other two replacements
bring in ampersands of their own. -/
def escapeChars (cs : List Char) : List Char :=
  substitute '>' ['&', 'g', 't', ';']
    (substitute '<' ['&', 'l', 't', ';'] (substitute '&' ['&', 'a', 'm', 'p', ';'] cs))

@[simp] theorem escapeChars_nil : escapeChars [] = [] := rfl

@[simp] theorem escapeChars_append (s t : List Char) :
    escapeChars (s ++ t) = escapeChars s ++ escapeChars t := by
  simp [escapeChars]

/-- The escaped form of a text. -/
def escape (s : String) : String := String.ofList (escapeChars s.toList)

/-- A text in bold face. -/
def bold (s : String) : String := "<b>" ++ s ++ "</b>"

/-- A text in the face of code. -/
def code (s : String) : String := "<code>" ++ s ++ "</code>"

/-- A block of text whose spacing is kept. -/
def preformatted (s : String) : String := "<pre>" ++ s ++ "</pre>"

end Uptime.Text
