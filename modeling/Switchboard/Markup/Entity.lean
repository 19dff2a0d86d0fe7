import Switchboard.Text.Pattern

/-!
# Entities

Six characters have a written form that markup leaves alone.

* `unescape`: the written forms replaced one kind after another, the ampersand last.
* `decodeWith`: a single reading from left to right, for some kinds of them.
* `decodeOnce`: such a reading for all kinds.
* `escape`: the written form of a text.
-/

namespace Switchboard.Markup

open Text

/-- The written forms with what they stand for.  The ampersand is last, so that what it uncovers is
not read again. -/
def entities : List (Text × Char) :=
  [("&lt;".toList, '<'), ("&gt;".toList, '>'), ("&quot;".toList, '"'), ("&#39;".toList, '\''),
    ("&nbsp;".toList, ' '), ("&amp;".toList, '&')]

/-- The text with each kind of entity replaced in turn. -/
def unescape (s : Text) : Text :=
  entities.foldl (fun s e => replaceAll (literal e.1) (fun _ => [e.2]) s) s

/-- The first of some kinds of entities that the text starts with. -/
def kindAt? (kinds : List (Text × Char)) (s : Text) : Option (Text × Char) :=
  kinds.find? fun e => e.1.isPrefixOf s

/-- The character that an entity of some kinds stands for, and a text that is none itself. -/
def charOf (kinds : List (Text × Char)) (w : Text) : Text :=
  match kinds.lookup w with
  | some c => [c]
  | none => w

/-- The text read once from left to right, every entity of some kinds replaced by its character. -/
def decodeWith (kinds : List (Text × Char)) (s : Text) : Text :=
  replaceAll (fun s => (kindAt? kinds s).map (·.1)) (charOf kinds) s

/-- The text read once from left to right, every entity replaced by its character. -/
def decodeOnce (s : Text) : Text := decodeWith entities s

/-- The written form of a character. -/
def escapeChar : Char → Text
  | '&' => "&amp;".toList
  | '<' => "&lt;".toList
  | '>' => "&gt;".toList
  | '"' => "&quot;".toList
  | '\'' => "&#39;".toList
  | c => [c]

/-- The text with the five special characters in their written forms. -/
def escape (s : Text) : Text := s.flatMap escapeChar

end Switchboard.Markup
