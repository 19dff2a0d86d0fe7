import Switchboard.Regex.Basic
import Switchboard.Text.Alphanumeric
import Switchboard.Text.Digits

/-!
# Reading regular expressions

An expression is read from left to right, with a stack of the groups that are open.  A repetition
that is counted between braces is not understood.

* `Regex.parse`: the expression that a text stands for.
* `Regex.readClass`: a class between brackets.
-/

namespace Switchboard

/-- Why a text stands for no expression that can be followed. -/
inductive RegexError where
  /-- It stands for no expression. -/
  | illFormed
  /-- It asks for edges of words beyond ASCII. -/
  | unsupported
  deriving DecidableEq

/-- The wording of the error. -/
def RegexError.message : RegexError → Text
  | illFormed => "error building NFA".toList
  | unsupported => "unsupported regex feature for DFAs".toList

namespace Regex

/-! ## Flags -/

/-- How an expression is read. -/
structure Flags where
  /-- Letters stand for both cases. -/
  anyCase : Bool := false
  /-- Anchors hold at every line. -/
  lines : Bool := false
  /-- A dot also stands for the end of a line. -/
  dotAll : Bool := false
  /-- A carriage return ends lines as well. -/
  returns : Bool := false
  /-- Repetitions take as little as possible unless they are marked. -/
  lazily : Bool := false
  /-- Characters beyond ASCII may be taken. -/
  unicode : Bool := true
  /-- Blanks and comments are passed over. -/
  spaced : Bool := false

/-- The flags with one of them changed. -/
def Flags.set? (f : Flags) (letter : Char) (on : Bool) : Option Flags :=
  match letter with
  | 'i' => some { f with anyCase := on }
  | 'm' => some { f with lines := on }
  | 's' => some { f with dotAll := on }
  | 'R' => some { f with returns := on }
  | 'U' => some { f with lazily := on }
  | 'u' => some { f with unicode := on }
  | 'x' => some { f with spaced := on }
  | _ => none

/-- The text behind blanks and comments; `inComment` if it starts within one. -/
def skipBlanks (inComment : Bool) : Text → Text
  | [] => []
  | c :: s =>
    if inComment then skipBlanks (c != '\n') s
    else if isBlank c then skipBlanks false s
    else if c = '#' then skipBlanks true s
    else c :: s

/-- The text behind what is passed over. -/
def Flags.skip (f : Flags) (s : Text) : Text := if f.spaced then skipBlanks false s else s

/-- Reads flags up to a colon or a closing bracket, which is given back.  No flag may come twice, and
one has to follow the hyphen that turns flags off. -/
def readFlags (f : Flags) (seen : List Char) : Text → Option (Flags × Char × Text)
  | [] => none
  | c :: s =>
    if c = ':' ∨ c = ')' then
      if seen.head? = some '-' then none else some (f, c, s)
    else if c ∈ seen then none
    else if c = '-' then readFlags f (c :: seen) s
    else (f.set? c ('-' ∉ seen)) >>= fun f => readFlags f (c :: seen) s

/-! ## Escapes -/

/-- What is written with a backslash. -/
inductive Escape where
  /-- A character; `isByte` if it is written as one byte. -/
  | char (c : Char) (isByte : Bool)
  | ofClass (c : CharClass)
  | ofPlace (a : Assertion)

/-- The value of a number of digits of base sixteen. -/
def readHex (f : Flags) : Nat → Nat → Text → Option (Nat × Text)
  | 0, value, s => some (value, s)
  | n + 1, value, s =>
    match f.skip s with
    | [] => none
    | c :: s => hexValue? c >>= fun d => readHex f n (16 * value + d) s

/-- The character of a number, if there is one. -/
def charOfNumber? (n : Nat) : Option Char := if n.isValidChar then some (Char.ofNat n) else none

/-- The characters that have a meaning of their own. -/
def isMeta (c : Char) : Bool := "\\.+*?()|[]\x7b\x7d^$#&-~".toList.contains c

/-- The characters that may have a backslash before them and stand for themselves. -/
def isEscapable (c : Char) : Bool :=
  isMeta c || (c.toNat < 128 && !c.isAlphanum && c != '<' && c != '>')

/-- The characters that letters stand for. -/
def controlOf? (c : Char) : Option Char :=
  let controls : List (Char × Char) :=
    [ ('a', '\x07'), ('f', '\x0c'), ('t', '\t'), ('n', '\n'), ('r', '\r'), ('v', '\x0b') ]
  controls.lookup c

/-- The class that a letter stands for; its complement for the upper-case letter. -/
def classOf? (f : Flags) (c : Char) : Option CharClass :=
  let known : Option CharClass := match c.toLower with
    | 'd' => some .digit
    | 's' => some (if f.unicode then .blank else .asciiBlank)
    | 'w' => some (if f.unicode then .word else .asciiWord)
    | _ => none
  known >>= fun d =>
    if !c.isUpper then some d else if f.unicode then some (.except d) else none

/-- The assertion that a character stands for. -/
def assertionOf? (f : Flags) (c : Char) : Option Assertion :=
  match c with
  | 'A' => some .textStart
  | 'z' => some .textEnd
  | 'b' => some (.wordEdge true !f.unicode)
  | 'B' => some (.wordEdge false !f.unicode)
  | '<' => some (.wordStart !f.unicode)
  | '>' => some (.wordEnd !f.unicode)
  | _ => none

/-- A class as it stands, or with the characters that differ by case. -/
def Flags.cased (f : Flags) (c : CharClass) : CharClass := if f.anyCase then .anyCase c else c

/-- Reads what follows a backslash. -/
def readEscape (f : Flags) : Text → Option (Escape × Text)
  | [] => none
  | c :: s =>
    if c ∈ ['x', 'u', 'U'] then do
      let (n, s) ← readHex f (if c = 'x' then 2 else if c = 'u' then 4 else 8) 0 s
      let d ← charOfNumber? n
      return (.char d (c = 'x' ∧ 128 ≤ n), s)
    else if c ∈ ['p', 'P'] then
      match f.skip s with
      | [] => none
      | category :: s =>
        if !f.unicode then none
        else (CharClass.ofCategory? category).map fun d =>
          (.ofClass (if c = 'P' then .except (f.cased d) else f.cased d), s)
    else if isEscapable c then some (.char c false, s)
    else
      let found : Option Escape :=
        (controlOf? c).map (.char · false) <|> (classOf? f c).map .ofClass <|>
          (assertionOf? f c).map .ofPlace
      found.map (·, s)

/-! ## Classes -/

/-- What is done with two classes. -/
inductive ClassOperator where
  | intersection
  | difference
  | symmetricDifference

/-- A class whose closing bracket is still to come. -/
structure OpenClass where
  negated : Bool
  /-- Nothing but hyphens were read. -/
  isNew : Bool := true
  /-- What comes before the last operator. -/
  left : Option (ClassOperator × CharClass) := none
  /-- What was read since. -/
  items : List CharClass := []

namespace OpenClass

/-- With one more part. -/
def push (o : OpenClass) (c : CharClass) : OpenClass := { o with items := c :: o.items, isNew := false }

/-- The class so far, but for the negation. -/
def value (f : Flags) (o : OpenClass) : CharClass :=
  let right := f.cased (.union o.items)
  match o.left with
  | none => right
  | some (op, left) =>
    let left := f.cased left
    match op with
    | .intersection => .both left right
    | .difference => .both left (.except right)
    | .symmetricDifference => .either (.both left (.except right)) (.both right (.except left))

/-- The class when it is closed. -/
def close (f : Flags) (o : OpenClass) : CharClass :=
  if o.negated then .except (o.value f) else o.value f

/-- With an operator behind it. -/
def operate (f : Flags) (op : ClassOperator) (o : OpenClass) : OpenClass :=
  { negated := o.negated, isNew := false, left := some (op, o.value f) }

end OpenClass

/-- Reads what follows the opening bracket of a class. -/
def openClass (f : Flags) (s : Text) : OpenClass × Text :=
  match f.skip s with
  | '^' :: s => ({ negated := true }, s)
  | s => ({ negated := false }, s)

/-- A named class between colons, behind its opening bracket. -/
def readNamed (f : Flags) (s : Text) : Option (CharClass × Text) := do
  let s ← Text.dropPrefix? [':'] s
  let (negated, s) := match s with
    | '^' :: s => (true, s)
    | s => (false, s)
  let name := s.takeWhile (· != ':')
  let rest ← Text.dropPrefix? [':', ']'] (s.drop name.length)
  let c ← CharClass.ofName? name
  return (if negated then .except (f.cased c) else f.cased c, rest)

/-- A character or a class within brackets. -/
def readClassItem (f : Flags) : Text → Option ((Char ⊕ CharClass) × Text)
  | [] => none
  | '\\' :: s => do
    match ← readEscape f s with
    | (.char c isByte, s) => if f.unicode ∨ isByte ∨ c.toNat < 128 then some (.inl c, s) else none
    | (.ofClass c, s) => some (.inr c, s)
    | (.ofPlace _, _) => none
  | c :: s => if f.unicode ∨ c.toNat < 128 then some (.inl c, s) else none

/-- An item within brackets: a character, a class, or a range of characters. -/
def readClassRange (f : Flags) (s : Text) : Option (CharClass × Text) := do
  let (first, s) ← readClassItem f s
  let s := f.skip s
  let single : CharClass := match first with
    | .inl c => .single c
    | .inr c => c
  match s with
  | '-' :: rest =>
    let rest := f.skip rest
    if rest.head? = some ']' ∨ rest.head? = some '-' then return (single, s)
    match first, ← readClassItem f rest with
    | .inl c, (.inl d, rest) => if c ≤ d then return (.range c d, rest) else none
    | _, _ => none
  | s => return (single, s)

/-- Whether a class has none of the characters that a single byte beyond ASCII stands for. -/
def isAsciiOnly (c : CharClass) : Bool :=
  (List.range 128).all fun i => !c.contains (Char.ofNat (128 + i))

/-- Reads on within a class and the classes it is in; fuel for each step. -/
def readClassWith (f : Flags) : Nat → OpenClass → List OpenClass → Text → Option (CharClass × Text)
  | 0, _, _, _ => none
  | fuel + 1, o, outer, s =>
    match f.skip s with
    | [] => none
    | '-' :: s =>
      if o.isNew then readClassWith f fuel { o with items := .single '-' :: o.items } outer s
      else match s with
        | '-' :: s => readClassWith f fuel (o.operate f .difference) outer s
        | s => do
          let (c, s) ← readClassRange f ('-' :: s)
          readClassWith f fuel (o.push c) outer s
    | '[' :: s =>
      match readNamed f s with
      | some (c, s) => readClassWith f fuel (o.push c) outer s
      | none =>
        let (inner, s) := openClass f s
        readClassWith f fuel inner ({ o with isNew := false } :: outer) s
    | ']' :: s =>
      if o.isNew ∧ o.items.isEmpty then readClassWith f fuel (o.push (.single ']')) outer s
      else match outer with
        | [] => some (o.close f, s)
        | next :: outer => readClassWith f fuel (next.push (o.close f)) outer s
    | '&' :: '&' :: s => readClassWith f fuel (o.operate f .intersection) outer s
    | '~' :: '~' :: s => readClassWith f fuel (o.operate f .symmetricDifference) outer s
    | s => do
      let (c, s) ← readClassRange f s
      readClassWith f fuel (o.push c) outer s

/-- Reads a class behind its opening bracket.  Where only ASCII may be taken it has to be of ASCII. -/
def readClass (f : Flags) (s : Text) : Option (CharClass × Text) := do
  let (o, s) := openClass f s
  let (c, s) ← readClassWith f (s.length + 1) o [] s
  if f.unicode then return (c, s)
  else if isAsciiOnly c then return (.both c .ascii, s)
  else none

/-! ## Expressions -/

/-- One character, in either case if flags say so. -/
def charOf? (f : Flags) (c : Char) (isByte : Bool) : Option Regex :=
  if f.unicode ∨ c.toNat < 128 then some (.one (f.cased (.single c)))
  else if isByte ∨ f.anyCase then none
  else some (.one (.single c))

/-- What a dot stands for. -/
def dot? (f : Flags) : Option Regex :=
  if !f.unicode then none
  else if f.dotAll then some (.one .anything)
  else some (.one (.except (.oneOf (if f.returns then ['\r', '\n'] else ['\n']))))

/-- Reads one character, class or assertion that takes no brackets. -/
def readSingle (f : Flags) : Text → Option (Regex × Text)
  | [] => none
  | '\\' :: s => do
    match ← readEscape f s with
    | (.char c isByte, s) => (charOf? f c isByte).map (·, s)
    | (.ofClass c, s) => some (.one c, s)
    | (.ofPlace a, s) => some (.look a, s)
  | '.' :: s => (dot? f).map (·, s)
  | '^' :: s => some (.look (if f.lines then .lineStart f.returns else .textStart), s)
  | '$' :: s => some (.look (if f.lines then .lineEnd f.returns else .textEnd), s)
  | c :: s => (charOf? f c false).map (·, s)

/-- A group whose closing bracket is still to come. -/
structure OpenGroup where
  /-- The flags to go back to. -/
  flags : Flags
  /-- The alternatives before the last one, last first. -/
  alternatives : List Regex := []
  /-- The parts of the last alternative, last first; a change of flags is a part without
  expression. -/
  parts : List (Option Regex) := []

namespace OpenGroup

/-- The parts of the last alternative in sequence. -/
def sequence (g : OpenGroup) : Regex :=
  (g.parts.filterMap id).foldl (fun r p => p.followedBy r) .empty

/-- The expression within the group. -/
def value (g : OpenGroup) : Regex := g.alternatives.foldl (fun r a => .alt a r) g.sequence

/-- With one more part. -/
def push (g : OpenGroup) (r : Regex) : OpenGroup := { g with parts := some r :: g.parts }

/-- With the last part repeated, if there is one. -/
def repeated? (g : OpenGroup) (f : Regex → Regex) : Option OpenGroup :=
  match g.parts with
  | some r :: parts => some { g with parts := some (f r) :: parts }
  | _ => none

end OpenGroup

/-- An expression that is read. -/
structure Reading where
  flags : Flags := {}
  /-- The names of groups. -/
  names : List Text := []
  group : OpenGroup := { flags := {} }
  outer : List OpenGroup := []

namespace Reading

/-- Opens a group whose flags are given. -/
def openGroup (r : Reading) (flags : Flags) : Reading :=
  { r with flags, group := { flags := r.flags }, outer := r.group :: r.outer }

/-- Closes a group. -/
def closeGroup? (r : Reading) : Option Reading :=
  match r.outer with
  | [] => none
  | next :: outer => some { r with flags := r.group.flags, group := next.push r.group.value, outer }

/-- Whether a text is the name of a group: it starts with a letter or a low line. -/
def isGroupName (name : Text) : Bool :=
  name.head?.any (fun c => c == '_' || isAlphabetic c) &&
    name.all fun c => c == '_' || c == '.' || c == '[' || c == ']' || isAlphanumeric c

/-- Reads what follows the opening bracket of a group. -/
def readGroup (r : Reading) (s : Text) : Option (Reading × Text) :=
  let s := r.flags.skip s
  match Text.dropPrefix? "?P<".toList s <|> Text.dropPrefix? "?<".toList s with
  | some s =>
    let name := s.takeWhile (· != '>')
    if !isGroupName name || r.names.contains name then none
    else match s.drop name.length with
      | '>' :: s => some ({ r.openGroup r.flags with names := name :: r.names }, s)
      | _ => none
  | none =>
    match s with
    | '?' :: s =>
      match readFlags r.flags [] s with
      | some (flags, ':', rest) => some (r.openGroup flags, rest)
      | some (flags, _, rest) =>
        if s.head? = some ')' then none
        else some ({ r with flags, group := { r.group with parts := none :: r.group.parts } }, rest)
      | none => none
    | s => some (r.openGroup r.flags, s)

/-- A repetition of an expression. -/
def repetition (mark : Char) (greedy : Bool) (e : Regex) : Regex :=
  if mark = '*' then .many greedy e
  else if mark = '+' then .seq e (.many greedy e)
  else if greedy then .alt e .empty
  else .alt .empty e

/-- Reads a step of an expression. -/
def next (r : Reading) : Text → Option (Reading × Text)
  | '(' :: s => r.readGroup s
  | ')' :: s => r.closeGroup?.map (·, s)
  | '|' :: s =>
    some ({ r with group :=
      { r.group with alternatives := r.group.sequence :: r.group.alternatives, parts := [] } }, s)
  | '[' :: s => (readClass r.flags s).map fun (c, s) =>
      ({ r with group := r.group.push (.one c) }, s)
  | '\x7b' :: _ => none
  | c :: s =>
    if c ∈ ['*', '+', '?'] then
      let (isMarked, s) := match s with
        | '?' :: s => (true, s)
        | s => (false, s)
      (r.group.repeated? (repetition c (isMarked == r.flags.lazily))).map fun group =>
        ({ r with group }, s)
    else (readSingle r.flags (c :: s)).map fun (e, s) => ({ r with group := r.group.push e }, s)
  | [] => none

/-- Reads to the end of a text; fuel for each step. -/
def runWith : Nat → Reading → Text → Option Regex
  | 0, _, _ => none
  | fuel + 1, r, s =>
    match r.flags.skip s with
    | [] => if r.outer.isEmpty then some r.group.value else none
    | s => r.next s >>= fun (r, s) => runWith fuel r s

end Reading

/-- The expression that a text stands for. -/
def parse (s : Text) : Except RegexError Regex :=
  match Reading.runWith (s.length + 1) {} s with
  | none => .error .illFormed
  | some r => if r.asksForWords then .error .unsupported else .ok r

end Regex

end Switchboard
