import Switchboard.Text.Blank
import Switchboard.Text.Word

/-!
# Classes of characters

A class of a regular expression says of every character whether it is in it.  Of the characters beyond
ASCII the named classes know word characters and blanks, and two of them differ only by case from a
letter of ASCII.

* `CharClass.contains`: whether a character is in a class.
* `CharClass.ofName?`, `CharClass.ofCategory?`: the classes that have names.
-/

namespace Switchboard

/-- A class of characters. -/
inductive CharClass where
  | nothing
  | range (first last : Char)
  | word
  | blank
  | except (c : CharClass)
  | either (c d : CharClass)
  | both (c d : CharClass)
  /-- What differs by case at most from a character of a class. -/
  | anyCase (c : CharClass)
  deriving DecidableEq, Repr

/-- The long s, which is an s but for case. -/
def longS : Char := '\u017f'

/-- The sign of the unit kelvin, which is a k but for case. -/
def kelvinSign : Char := '\u212a'

/-- The characters that differ from a character by case at most. -/
def caseVariants (c : Char) : List Char :=
  if c ∈ ['k', 'K', kelvinSign] then ['k', 'K', kelvinSign]
  else if c ∈ ['s', 'S', longS] then ['s', 'S', longS]
  else [c, c.toLower, c.toUpper]

namespace CharClass

/-- Whether a character is in a class. -/
def contains : CharClass → Char → Bool
  | nothing, _ => false
  | range first last, c => first ≤ c && c ≤ last
  | word, c => isWord c
  | blank, c => isBlank c
  | except d, c => !d.contains c
  | either d e, c => d.contains c || e.contains c
  | both d e, c => d.contains c && e.contains c
  | anyCase d, c => (caseVariants c).any d.contains

/-! ## Classes with names -/

/-- One character. -/
def single (c : Char) : CharClass := range c c

/-- All characters. -/
def anything : CharClass := except nothing

/-- The characters of a text. -/
def oneOf (s : Text) : CharClass := (s.map single).foldr either nothing

/-- The union of some classes. -/
def union (cs : List CharClass) : CharClass := cs.foldr either nothing

/-- The digits of ASCII. -/
def digit : CharClass := range '0' '9'

/-- The lower-case letters of ASCII. -/
def lower : CharClass := range 'a' 'z'

/-- The upper-case letters of ASCII. -/
def upper : CharClass := range 'A' 'Z'

/-- The letters of ASCII. -/
def letter : CharClass := either lower upper

/-- The characters of ASCII. -/
def ascii : CharClass := range '\x00' '\x7f'

/-- The controls of ASCII. -/
def control : CharClass := either (range '\x00' '\x1f') (single '\x7f')

/-- The characters of ASCII that leave ink. -/
def graph : CharClass := range '!' '~'

/-- The letters, the digits and the low line of ASCII. -/
def asciiWord : CharClass := union [letter, digit, single '_']

/-- The blanks of ASCII. -/
def asciiBlank : CharClass := either (range '\t' '\x0d') (single ' ')

/-- The signs of ASCII: what leaves ink and is neither a letter nor a digit. -/
def sign : CharClass := both graph (except (either letter digit))

/-- The class that a name between colons stands for. -/
def ofName? (name : Text) : Option CharClass :=
  let classes : List (Text × CharClass) :=
    [ ("alnum".toList, either letter digit), ("alpha".toList, letter), ("ascii".toList, ascii),
      ("blank".toList, oneOf ['\t', ' ']), ("cntrl".toList, control), ("digit".toList, digit),
      ("graph".toList, graph), ("lower".toList, lower), ("print".toList, range ' ' '~'),
      ("punct".toList, sign), ("space".toList, asciiBlank), ("upper".toList, upper),
      ("word".toList, asciiWord),
      ("xdigit".toList, union [digit, range 'a' 'f', range 'A' 'F']) ]
  classes.lookup name

/-- The signs of ASCII that are symbols and no punctuation. -/
def symbol : CharClass := oneOf "$+<=>^\x60|~".toList

/-- The characters of ASCII in a general category, which is named by one letter in either case. -/
def ofCategory? (c : Char) : Option CharClass :=
  let classes : List (Char × CharClass) :=
    [ ('l', letter), ('m', nothing), ('n', digit), ('p', both sign (except symbol)), ('s', symbol),
      ('z', single ' '), ('c', control) ]
  classes.lookup c.toLower

end CharClass

end Switchboard
