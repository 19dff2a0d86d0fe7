import Switchboard.Failure
import Switchboard.Markup.Entity
import Switchboard.Markup.Tag

/-!
# Reducing markup to plain text

Paragraphs and anchors are dropped, images become their alternative text, line breaks become
newlines, all other tags are dropped, and last the entities are read.

* `reduce`: the plain text of a markup text.
* `emoteText`: what an image becomes; an image without a text is a failure.
-/

namespace Switchboard.Markup

open Text

/-- The name under which this reduction reports failures and appears in logs. -/
def reduceName : Text := "reduce_html".toList

/-- What an image stands for: brackets for an echo, pointing left when it is mirrored, and otherwise
its alternative text. -/
def emoteText (tag : Text) : Except Failure Text :=
  if occursIn "alt=\"echo\"".toList tag then
    .ok (if occursIn "scaleX(-1)".toList tag then "(((".toList else ")))".toList)
  else match altText? tag with
    | some name => .ok name
    | none => .error (.malformed reduceName ("emote without alt text: ".toList ++ tag))

/-- The text without paragraph and anchor tags and the first keyboard marks. -/
def stripBlocks (s : Text) : Text :=
  removeFirst "</kbd>".toList (removeFirst "<kbd>".toList
    (removeAll anchorTag (removeAll paragraphTag s)))

/-- The text with line breaks turned to newlines and all other tags dropped. -/
def stripTags (s : Text) : Text := removeAll anyTag (replaceAll lineBreakTag (fun _ => ['\n']) s)

/-- The text without tags, before its entities are read. -/
def withoutTags (s : Text) : Except Failure Text :=
  stripTags <$> replaceAllM imageTag emoteText (stripBlocks s)

/-- The plain text of a markup text, without blanks at its ends. -/
def reduce (s : Text) : Except Failure Text := (fun t => trim (unescape t)) <$> withoutTags s

end Switchboard.Markup
