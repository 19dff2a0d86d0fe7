import Switchboard.Text.Pattern
import Switchboard.Text.Blank
import Switchboard.Text.Word

/-!
# Tags

The tags of chat markup, as patterns.  A tag runs from its opening bracket to the first closing
one, and each kind of tag admits only certain characters in between.

* `paragraphTag`, `anchorTag`, `imageTag`, `lineBreakTag`, `anyTag`: the patterns.
* `altText?`: the alternative text an image tag carries.
-/

namespace Switchboard.Markup

open Text

/-- What the text starts with up to and including the first `>`, if all before it satisfies
`inside`. -/
def throughBracket (inside : Char → Bool) : Pattern
  | [] => none
  | c :: cs =>
    if c = '>' then some ['>']
    else if inside c then (throughBracket inside cs).map (c :: ·)
    else none

/-- The start of the text that spells `word` in letters of either case. -/
def eitherCase : Text → Pattern
  | [], _ => some []
  | _ :: _, [] => none
  | w :: ws, c :: cs =>
    if c.toLower = w then (eitherCase ws cs).map (c :: ·) else none

/-- One pattern behind another. -/
def andThen (p q : Pattern) : Pattern := fun s => do
  let w ← p s
  let v ← q (s.drop w.length)
  return w ++ v

/-- At most one `/`. -/
def slash? : Pattern
  | '/' :: _ => some ['/']
  | _ => some []

/-- As many blanks as there are. -/
def blanks : Pattern := fun s => some (s.takeWhile isBlank)

/-! ## What tags may hold -/

/-- Characters of a paragraph tag. -/
def isParagraphChar (c : Char) : Bool := isWord c || " =#\"':/\\.-?".toList.contains c

/-- Characters of an anchor or image tag: word characters, all from the space to the equality sign,
and a few marks. -/
def isAnchorChar (c : Char) : Bool :=
  isWord c || (' ' ≤ c && c ≤ '=') || "#\"':/\\.-?".toList.contains c

/-! ## The patterns -/

/-- An opening or closing paragraph tag, or any tag whose name starts with its letter. -/
def paragraphTag : Pattern :=
  andThen (literal ['<']) (andThen slash?
    (andThen (eitherCase ['p']) (throughBracket isParagraphChar)))

/-- An opening or closing anchor tag, or any tag whose name starts with its letter. -/
def anchorTag : Pattern :=
  andThen (literal ['<']) (andThen slash?
    (andThen (eitherCase ['a']) (throughBracket isAnchorChar)))

/-- An image tag. -/
def imageTag : Pattern :=
  andThen (literal ['<']) (andThen (eitherCase "img".toList) (throughBracket isAnchorChar))

/-- A line break, perhaps closed by a slash. -/
def lineBreakTag : Pattern :=
  andThen (literal ['<']) (andThen (eitherCase "br".toList)
    (andThen blanks (andThen slash? (literal ['>']))))

/-- Any tag that is not empty. -/
def anyTag : Pattern
  | '<' :: c :: cs => if c = '>' then none else
      (throughBracket (fun _ => true) (c :: cs)).map ('<' :: ·)
  | _ => none

/-! ## The text of an image -/

/-- Characters of an alternative text. -/
def isAltChar (c : Char) : Bool := isWord c || c == ':' || c == '(' || c == ')'

/-- The first alternative text in double quotes, in an image tag. -/
def altText? : Text → Option Text
  | [] => none
  | c :: cs =>
    match dropPrefix? "alt=\"".toList (c :: cs) with
    | none => altText? cs
    | some rest =>
      let name := rest.takeWhile isAltChar
      if name ≠ [] ∧ (rest.drop name.length).head? = some '"' then some name else altText? cs

end Switchboard.Markup
