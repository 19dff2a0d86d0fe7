import Switchboard.Regex.CharClass

/-!
# Regular expressions

An expression is followed through a text as an ordered list of ways on, the most wanted first.  A way
that is through rules out all that is less wanted as soon as the text goes on.

* `Regex.moves`: the ways on from a place, in order.
* `Regex.lastsIn`: whether an expression is through at the end of a text, starting anywhere in it.
-/

namespace Switchboard

/-- What can be asked of a place in a text. -/
inductive Assertion where
  | textStart
  | textEnd
  /-- The start of a line; if asked for, a carriage return ends lines as well. -/
  | lineStart (returns : Bool)
  /-- The end of a line. -/
  | lineEnd (returns : Bool)
  /-- Whether it lies between a word and something else. -/
  | wordEdge (isEdge isAscii : Bool)
  | wordStart (isAscii : Bool)
  | wordEnd (isAscii : Bool)
  deriving DecidableEq, Repr

/-- A regular expression. -/
inductive Regex where
  /-- Takes nothing. -/
  | empty
  /-- Takes one character of a class. -/
  | one (c : CharClass)
  /-- Takes nothing, at some places. -/
  | look (a : Assertion)
  | seq (r s : Regex)
  /-- The first if possible, else the second. -/
  | alt (r s : Regex)
  /-- Any number of times; as often as possible, or as seldom. -/
  | many (greedy : Bool) (r : Regex)
  deriving DecidableEq, Repr

/-! ## Places -/

/-- A place in a text: the characters on both sides of it. -/
structure Place where
  before : Option Char
  after : Option Char
  deriving DecidableEq

namespace Place

/-- Whether there is a word on the side of a character. -/
def isWordAt (isAscii : Bool) (c : Option Char) : Bool :=
  c.any (if isAscii then CharClass.asciiWord else .word).contains

/-- Whether an assertion holds at a place. -/
def satisfies (p : Place) : Assertion → Bool
  | .textStart => p.before.isNone
  | .textEnd => p.after.isNone
  | .lineStart false => p.before.all (· == '\n')
  | .lineEnd false => p.after.all (· == '\n')
  | .lineStart true => p.before.all fun c => c == '\n' || (c == '\r' && p.after != some '\n')
  | .lineEnd true => p.after.all fun c => c == '\r' || (c == '\n' && p.before != some '\r')
  | .wordEdge isEdge isAscii =>
    (isWordAt isAscii p.before != isWordAt isAscii p.after) == isEdge
  | .wordStart isAscii => !isWordAt isAscii p.before && isWordAt isAscii p.after
  | .wordEnd isAscii => isWordAt isAscii p.before && !isWordAt isAscii p.after

end Place

namespace Regex

/-! ## Ways on -/

/-- A way on from a place: being through, or taking a character and going on. -/
inductive Move where
  | through
  | take (c : CharClass) (rest : Regex)
  deriving DecidableEq

/-- One expression and then another. -/
def followedBy (r s : Regex) : Regex :=
  if r = empty then s else if s = empty then r else seq r s

/-- What is still to be done after a way on, if there is one more expression. -/
def Move.before (s : Regex) (next : List Move) : Move → List Move
  | through => next
  | take c rest => [take c (rest.followedBy s)]

/-- The ways on from a place, the most wanted first and none of them twice. -/
def moves (p : Place) : Regex → List Move
  | empty => [.through]
  | one c => [.take c empty]
  | look a => if p.satisfies a then [.through] else []
  | seq r s => ((r.moves p).flatMap (Move.before s (s.moves p))).eraseDups
  | alt r s => (r.moves p ++ s.moves p).eraseDups
  | many greedy r =>
    let more := (r.moves p).flatMap (Move.before (many greedy r) [.through])
    (if greedy then more ++ [.through] else .through :: more).eraseDups

/-! ## Through a text -/

/-- The expressions that are left of some, in order, after a character is taken: what is less wanted
than being through is given up. -/
def step (p : Place) (c : Char) (rs : List Regex) : List Regex :=
  let wanted := (rs.flatMap (moves p)).takeWhile (· ≠ .through)
  (wanted.filterMap fun
    | .take d rest => if d.contains c then some rest else none
    | .through => none).eraseDups

/-- Whether one of some expressions is through at the end of a text, of which the character before is
given. -/
def lastsFrom (before : Option Char) (rs : List Regex) : Text → Bool
  | [] => (rs.flatMap (moves ⟨before, none⟩)).contains .through
  | c :: s => lastsFrom (some c) (step ⟨before, some c⟩ c rs) s

/-- Whether an expression is through at the end of a text, if it may start anywhere in it. -/
def lastsIn (r : Regex) (s : Text) : Bool :=
  lastsFrom none [seq (many false (one .anything)) r] s

/-- Whether an expression asks for edges of words that are not those of ASCII. -/
def asksForWords : Regex → Bool
  | look (.wordEdge _ isAscii) | look (.wordStart isAscii) | look (.wordEnd isAscii) => !isAscii
  | empty | one _ | look _ => false
  | seq r s | alt r s => r.asksForWords || s.asksForWords
  | many _ r => r.asksForWords

end Regex

end Switchboard
