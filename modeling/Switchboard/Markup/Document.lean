import Switchboard.Markup.Entity
import Switchboard.Markup.Tag

/-!
# Documents

What chat markup is written from: a tree of texts, line breaks, emotes, links and paragraphs.

* `Node.render`: the markup of a document.
* `Node.plain`: the text that a reader sees of it.
* `Node.Valid`: its names, sources and targets are such as markup can hold.
-/

namespace Switchboard.Markup

/-- A part of a document. -/
inductive Node where
  | text (s : Text)
  /-- A line break, whose tag may close itself. -/
  | lineBreak (closed : Bool)
  /-- A picture with a name. -/
  | emote (name source : Text)
  /-- The picture of three brackets, which point left when it is mirrored. -/
  | echo (mirrored : Bool) (source : Text)
  | link (target : Text) (children : List Node)
  | paragraph (children : List Node)

namespace Node

/-- An image tag of attributes. -/
def imageOf (attributes : List (String × Text)) : Text :=
  "<img".toList ++
    attributes.flatMap (fun a => ' ' :: a.1.toList ++ "=\"".toList ++ a.2 ++ ['"']) ++ ['>']

mutual

/-- The markup of a part. -/
def render : Node → Text
  | text s => escape s
  | lineBreak closed => if closed then "<br/>".toList else "<br>".toList
  | emote name source => imageOf [("alt", name), ("src", source)]
  | echo mirrored source =>
    imageOf (("alt", "echo".toList) ::
      (if mirrored then [("style", "transform: scaleX(-1)".toList)] else []) ++ [("src", source)])
  | link target children =>
    "<a href=\"".toList ++ target ++ "\" target=\"_blank\">".toList ++ renderAll children ++
      "</a>".toList
  | paragraph children => "<p>".toList ++ renderAll children ++ "</p>".toList

/-- The markup of parts in order. -/
def renderAll : List Node → Text
  | [] => []
  | n :: ns => n.render ++ renderAll ns

end

mutual

/-- The text that a reader sees of a part. -/
def plain : Node → Text
  | text s => s
  | lineBreak _ => ['\n']
  | emote name _ => name
  | echo mirrored _ => if mirrored then "(((".toList else ")))".toList
  | link _ children => plainAll children
  | paragraph children => plainAll children

/-- The text that a reader sees of parts in order. -/
def plainAll : List Node → Text
  | [] => []
  | n :: ns => n.plain ++ plainAll ns

end

/-- Characters of the source of an image. -/
def isSourceChar (c : Char) : Bool := c.isAlphanum || "/.:-_?=%+".toList.contains c

mutual

/-- An emote has a name of its own, sources are made of the characters for them, and targets are
free of angle brackets. -/
def Valid : Node → Prop
  | text _ | lineBreak _ => True
  | emote name source =>
    name ≠ [] ∧ name ≠ "echo".toList ∧ (∀ c ∈ name, isAltChar c) ∧ ∀ c ∈ source, isSourceChar c
  | echo _ source => ∀ c ∈ source, isSourceChar c
  | link target children => '<' ∉ target ∧ '>' ∉ target ∧ ValidAll children
  | paragraph children => ValidAll children

/-- All parts are valid. -/
def ValidAll : List Node → Prop
  | [] => True
  | n :: ns => n.Valid ∧ ValidAll ns

end

end Node

end Switchboard.Markup
