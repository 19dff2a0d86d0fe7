import Switchboard.Settings

/-!
# Command line arguments

The console takes two options with a value, one flag, and asks for help.

* `Arguments.parse`: what the arguments choose, or what is wrong with them.
* `Arguments.apply`: the choices over settings.
-/

namespace Switchboard

/-- What the command line chooses. -/
structure Arguments where
  config : Option Text := none
  room : Option Text := none
  global : Bool := false
  deriving DecidableEq

/-- What may be given on the command line. -/
inductive Choice where
  | config
  | room
  | global
  | help
  deriving DecidableEq

/-- Why a command line is not followed. -/
inductive ArgumentError where
  /-- Something that is no option. -/
  | unknown (arg : Text)
  /-- An option without its value, or with an empty path. -/
  | noValue (c : Choice)
  /-- A flag with a value. -/
  | extraValue (c : Choice) (value : Text)
  /-- An option that is given twice. -/
  | repeated (c : Choice)
  /-- Help is asked for. -/
  | help
  deriving DecidableEq

namespace Choice

/-- The long name. -/
def name : Choice → Text
  | config => "config".toList
  | room => "room".toList
  | global => "global".toList
  | help => "help".toList

/-- The one-letter name. -/
def letter : Choice → Char
  | config => 'c'
  | room => 'r'
  | global => 'g'
  | help => 'h'

/-- Whether a value belongs to it. -/
def takesValue : Choice → Bool
  | config | room => true
  | global | help => false

/-- All choices. -/
def all : List Choice := [config, room, global, help]

/-- The choice of a long name. -/
def ofName? (name : Text) : Option Choice := all.find? (·.name = name)

/-- The choice of a letter. -/
def ofLetter? (c : Char) : Option Choice := all.find? (·.letter = c)

/-- How a choice is shown: its long name, and what its value is called. -/
def shown (c : Choice) : Text :=
  "--".toList ++ c.name ++
    (if c.takesValue then " <".toList ++ c.name.map Char.toUpper ++ ['>'] else [])

end Choice

namespace ArgumentError

/-- A text in single quotes. -/
def single (s : Text) : Text := '\'' :: s ++ ['\'']

/-- The first line of what is printed on an error. -/
def headline : ArgumentError → Text
  | unknown arg => "error: unexpected argument ".toList ++ single arg ++ " found".toList
  | noValue c =>
    "error: a value is required for ".toList ++ single c.shown ++ " but none was supplied".toList
  | extraValue c value =>
    "error: unexpected value ".toList ++ single value ++ " for ".toList ++ single c.shown ++
      " found; no more were expected".toList
  | repeated c =>
    "error: the argument ".toList ++ single c.shown ++ " cannot be used multiple times".toList
  | help => []

/-- What is printed when help is asked for. -/
def helpText : Text :=
  Text.joinWith ['\n']
    [ "Chat bot pipeline on the console".toList,
      [],
      "Usage: chatpipe [OPTIONS]".toList,
      [],
      "Options:".toList,
      "  -c, --config <CONFIG>  Path to settings file (default: ./chatpipe.toml)".toList,
      "  -r, --room <ROOM>      Home room, overrides the settings file".toList,
      "  -g, --global           Answer commands from every room".toList,
      "  -h, --help             Print help".toList ] ++ ['\n']

end ArgumentError

namespace Arguments

/-- The arguments read so far, and an option whose values have been collected but not taken in. -/
structure Reading where
  chosen : Arguments := {}
  /-- What was chosen. -/
  seen : List Choice := []
  pending : Option (Choice × List Text) := none
  /-- Whether the pending option still wants its value. -/
  wanting : Bool := false

/-- Takes in a choice with its values.  Its value must be there, it must be the first of its kind, and
a path must not be empty, checked in this order. -/
def take (c : Choice) (values : List Text) (r : Reading) : Except ArgumentError Reading :=
  match c, values with
  | .help, _ => .error .help
  | .global, _ =>
    if c ∈ r.seen then .error (.repeated c)
    else .ok { r with chosen := { r.chosen with global := true }, seen := c :: r.seen }
  | c, [] => .error (.noValue c)
  | c, value :: _ =>
    if c ∈ r.seen then .error (.repeated c)
    else match c with
      | .config =>
        if value.isEmpty then .error (.noValue c)
        else .ok { r with chosen := { r.chosen with config := some value }, seen := c :: r.seen }
      | _ => .ok { r with chosen := { r.chosen with room := some value }, seen := c :: r.seen }

/-- Takes in the pending option. -/
def Reading.settle (r : Reading) : Except ArgumentError Reading :=
  match r.pending with
  | none => .ok r
  | some (c, values) => take c values { r with pending := none, wanting := false }

/-- Takes in a choice behind the pending one. -/
def Reading.takeNext (r : Reading) (c : Choice) (values : List Text) : Except ArgumentError Reading :=
  r.settle >>= take c values

/-- Waits for the value of an option. -/
def Reading.await (r : Reading) (c : Choice) : Except ArgumentError Reading := do
  let r ← r.settle
  return { r with pending := some (c, []), wanting := true }

/-- An argument by a long name, perhaps with a value behind an equality sign. -/
def takeLong (s : Text) (r : Reading) : Except ArgumentError Reading :=
  let name := s.takeWhile (· != '=')
  let value := (s.drop name.length).tail?
  match Choice.ofName? name with
  | none => .error (.unknown ("--".toList ++ name))
  | some c =>
    match value with
    | some v => if c.takesValue then r.takeNext c [v] else .error (.extraValue c v)
    | none => if c.takesValue then r.await c else r.takeNext c []

/-- Letters in one argument: flags, and perhaps an option with the rest as its value. -/
def takeLetters : Text → Reading → Except ArgumentError Reading
  | [], r => .ok r
  | l :: ls, r =>
    match Choice.ofLetter? l with
    | none => .error (.unknown ['-', l])
    | some c =>
      if c.takesValue then
        match ls with
        | [] => r.await c
        | '=' :: value => r.takeNext c [value]
        | value => r.takeNext c [value]
      else r.takeNext c [] >>= takeLetters ls

/-- All arguments in order.  Behind a double dash nothing may follow. -/
def takeAll : List Text → Reading → Except ArgumentError Reading
  | [], r => r.settle
  | arg :: args, r =>
    match arg with
    | ['-', '-'] =>
      match args with
      | [] => r.settle
      | extra :: _ => .error (.unknown extra)
    | '-' :: '-' :: s => takeLong s r >>= takeAll args
    | '-' :: l :: ls => takeLetters (l :: ls) r >>= takeAll args
    | value =>
      match r.pending with
      | some (c, _) =>
        if r.wanting then takeAll args { r with pending := some (c, [value]), wanting := false }
        else .error (.unknown value)
      | none => .error (.unknown value)

/-- What the arguments choose. -/
def parse (args : List Text) : Except ArgumentError Arguments := (·.chosen) <$> takeAll args {}

/-- The settings with the choices put over them. -/
def apply (a : Arguments) (s : Settings) : Settings :=
  { s with bot := { s.bot with room := a.room.getD s.bot.room, global := a.global || s.bot.global } }

end Arguments

end Switchboard
