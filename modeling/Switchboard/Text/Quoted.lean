import Switchboard.Text.Digits
import Switchboard.Text.Printable

/-!
# Quoted text

Texts in double quotes, as logs show them: what does not show by itself is written by an escape.

* `Text.quoted`: a text in quotes.
* `Text.quotedList`: a list of quoted texts in brackets.
-/

namespace Switchboard.Text

/-- A character inside quotes. -/
def quotedChar (c : Char) : Text :=
  if c = '"' then "\\\"".toList
  else if c = '\\' then "\\\\".toList
  else if c = '\n' then "\\n".toList
  else if c = '\r' then "\\r".toList
  else if c = '\t' then "\\t".toList
  else if c = '\x00' then "\\0".toList
  else if isPrintable c then [c]
  else "\\u\x7b".toList ++ hexDigits c.toNat ++ ['\x7d']

/-- A text in double quotes. -/
def quoted (s : Text) : Text := '"' :: s.flatMap quotedChar ++ ['"']

/-- A list of texts in quotes, in brackets. -/
def quotedList (ss : List Text) : Text :=
  '[' :: joinWith ", ".toList (ss.map quoted) ++ [']']

end Switchboard.Text
