import Switchboard.Log.Expected

/-!
# Directives for the log

A directive such as `info`, `chatpipe::bot=debug` or `[batch]=trace` says how much is shown of some
targets or within some batches.

* `Directive.parse`: the directive that a text stands for.
* `Directive.concerns`, `Directive.precedes`: what a directive is about, and which of two comes first.
-/

namespace Switchboard

/-- How much is reported, counted from nothing. -/
def Level.verbosity : Level → Nat
  | .error => 1
  | .warn => 2
  | .info => 3
  | .debug => 4
  | .trace => 5

/-- All that is reported. -/
def greatestVerbosity : Nat := 5

/-- A field that has to be there, perhaps with a value. -/
structure FieldFilter where
  name : Text
  value : Option Expected := none
  deriving DecidableEq

/-- A directive of a filter: what it is about, and how much of that is shown. -/
structure Directive where
  verbosity : Nat := greatestVerbosity
  target : Option Text := none
  /-- The kind of batch within which it holds. -/
  span : Option Text := none
  requirement : Option FieldFilter := none
  deriving DecidableEq

/-- Why a directive was not understood. -/
inductive DirectiveError where
  | badForm
  | badLevel
  | badValue (cause : RegexError)
  /-- A part was to be cut out within a character; this stops the program. -/
  | torn
  deriving DecidableEq

/-- The wording of the error. -/
def DirectiveError.message : DirectiveError → Text
  | badForm => "invalid filter directive".toList
  | badLevel =>
    ("error parsing level filter: expected one of \"off\", \"error\", \"warn\", " ++
      "\"info\", \"debug\", \"trace\", or a number 0-5").toList
  | badValue cause => "invalid field filter: ".toList ++ cause.message
  | torn => []

/-- The verbosity that a word or a number stands for. -/
def verbosity? (s : Text) : Option Nat :=
  match Text.natural? (if s.head? = some '+' then s.tail else s) with
  | some n => if n ≤ greatestVerbosity then some n else none
  | none =>
    let words : List (Text × Nat) :=
      [ ([], 1), ("off".toList, 0), ("error".toList, 1), ("warn".toList, 2), ("info".toList, 3),
        ("debug".toList, 4), ("trace".toList, 5) ]
    words.lookup (s.map Char.toLower)

namespace Directive

/-! ## Reading -/

/-- Where the reading of a directive stands, with the offset at which its current part starts. -/
inductive Position where
  | start
  /-- Within what is either a level or a target. -/
  | word
  | span (start : Nat)
  | field (start : Nat)
  /-- Behind a field. -/
  | fieldEnd
  /-- Behind the closing bracket. -/
  | spanEnd
  | level (start : Nat)

/-- What was read of a directive. -/
structure Draft where
  position : Position := .start
  directive : Directive := {}

/-- The part of a text between two offsets. -/
def cut (s : Text) (start stop : Nat) : Except DirectiveError Text :=
  match Text.dropBytes? start s >>= Text.takeBytes? (stop - start) with
  | some part => .ok part
  | none => .error .torn

/-- The part of a text behind an offset. -/
def cutRest (s : Text) (start : Nat) : Except DirectiveError Text := cut s start s.size8

/-- Whether a directive may start with a character, brackets apart. -/
def isFirst (c : Char) : Bool := c == '-' || c == ':' || c == '_' || isAlphanumeric c

/-- A field between braces: its name, and behind an equality sign its value. -/
def fieldOf (s : Text) : Except DirectiveError FieldFilter :=
  if s.isEmpty then .error .badForm
  else match Text.splitOn '=' s with
    | name :: value :: _ => match Expected.parse value with
      | .ok value => .ok { name, value := some value }
      | .error e => .error (.badValue e)
    | _ => .ok { name := s }

/-- Reads the character at an offset.  Parts are cut out of the whole text. -/
def step (whole : Text) (offset : Nat) (c : Char) (d : Draft) : Except DirectiveError Draft :=
  match d.position with
  | .start =>
    if c = '[' then .ok { d with position := .span (offset + 1) }
    else if isFirst c then .ok { d with position := .word }
    else .error .badForm
  | .word =>
    if c = '=' ∨ c = '[' then do
      let target ← cut whole 0 offset
      let position := if c = '=' then .level (offset + 1) else .span (offset + 1)
      return { position, directive := { d.directive with target := some target } }
    else .ok d
  | .span start =>
    if c = ']' then do
      let span ← cut whole start offset
      return { position := .spanEnd, directive := { d.directive with span := some span } }
    else if c = '\x7b' then do
      let span ← cut whole start offset
      return { position := .field (offset + 1)
               directive := { d.directive with span := if span.isEmpty then none else some span } }
    else .ok d
  | .field start =>
    if c = '\x7d' then do
      let field ← cut whole start offset >>= fieldOf
      return { position := .fieldEnd, directive := { d.directive with requirement := some field } }
    else .ok d
  | .fieldEnd => if c = ']' then .ok { d with position := .spanEnd } else .error .badForm
  | .spanEnd =>
    if c = '=' then .ok { d with position := .level (offset + 1) } else .error .badForm
  | .level _ => .ok d

/-- Reads the characters from an offset on. -/
def steps (whole : Text) : Nat → Text → Draft → Except DirectiveError Draft
  | _, [], d => .ok d
  | offset, c :: s, d => step whole offset c d >>= steps whole (offset + c.utf8Size) s

/-- What was read at the end of the text.  A word is a level if there is one of that name, and else a
target. -/
def finish (whole : Text) (d : Draft) : Except DirectiveError Directive :=
  match d.position with
  | .word => match verbosity? whole with
    | some verbosity => .ok { verbosity }
    | none => .ok { target := some whole }
  | .level start => do
    let level ← cutRest whole start
    if level.isEmpty then return d.directive
    else match verbosity? level with
      | some verbosity => return { d.directive with verbosity }
      | none => .error .badLevel
  | .spanEnd => .ok d.directive
  | _ => .error .badForm

/-- The directive that a text stands for.  It is read without the blanks at its ends, but its parts
are cut out by their offsets as if there were none. -/
def parse (s : Text) : Except DirectiveError Directive := steps s 0 s.trim {} >>= finish s

/-! ## What a directive is about -/

/-- Whether a value of a field matters. -/
def asksForValue (d : Directive) : Bool := d.requirement.any (·.value.isSome)

/-- Whether it is about certain batches. -/
def isDynamic (d : Directive) : Bool := d.span.isSome || d.requirement.isSome

/-- Whether it can be applied to an event by itself. -/
def isStatic (d : Directive) : Bool := d.span.isNone && !d.asksForValue

/-- Whether it is about a target. -/
def hasTarget (d : Directive) (target : Text) : Bool := d.target.all (·.isPrefixOf target)

/-- Whether it is about what has certain fields. -/
def hasFields (d : Directive) (fields : List Text) : Bool :=
  d.requirement.all fun f => fields.contains f.name

/-- Whether it is about events of a target that have certain fields. -/
def concerns (d : Directive) (target : Text) (fields : List Text) : Bool :=
  d.hasTarget target && d.hasFields fields

/-- Whether another directive is about the same. -/
def sameSubject (d e : Directive) : Bool :=
  d.target == e.target && d.span == e.span && d.requirement == e.requirement

/-- Whether it is more particular than another: it has a longer target, or else a field where the
other has none; what is left is decided by the alphabet, the last first. -/
def precedes (d e : Directive) : Bool :=
  let size (d : Directive) : Nat := match d.target with
    | none => 0
    | some t => t.size8 + 1
  let name (d : Directive) : Text := (d.requirement.map (·.name)).getD []
  if size d ≠ size e then size e < size d
  else if d.requirement.isSome ≠ e.requirement.isSome then d.requirement.isSome
  else if d.target ≠ e.target then decide (e.target.getD [] < d.target.getD [])
  else decide (name e < name d)

end Directive

end Switchboard
