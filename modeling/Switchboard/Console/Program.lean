import Switchboard.Bot.Basic
import Switchboard.Console.Arguments
import Switchboard.Console.Commands
import Switchboard.Log.Line

/-!
# The console program

A bot whose rooms are the lines of its input and output.  A line that starts with a room behind a
hash sign comes from that room, any other line from home.  What is sent and what is reported is
written in the order in which it happens.

* `Console.prepare`: everything before the first line.
* `Console.hear`: one line of input.
* `Console.program`: a whole run from the arguments and the input to the output.
-/

namespace Switchboard.Console

/-- What the bot on the console works on. -/
abbrev State := BotState ConsoleCommand Unit

/-- What a program leaves behind. -/
structure Exit where
  code : Nat
  /-- What is written to the output. -/
  out : Text := []
  /-- The first line of the complaints. -/
  complaint : Text := []
  deriving DecidableEq

/-! ## The bot -/

/-- The bot on the console. -/
def bot : Bot ConsoleCommand Unit :=
  Bot.build (fun e inv => e.handler.run inv) { name := "console".toList }

/-- The state in which the bot is built. -/
def initial (s : Settings) : State :=
  { world := { config := s.bot, settings := s.commands, memory := () } }

/-- Registers the commands and connects. -/
def connect : Action State BotError Unit := do
  Bot.onWorld (World.registerAll (ConsoleCommand.entries id))
  let s ← Action.get
  Action.emit (.ready s.world.registry.names)
  bot.init
  let config := s.world.config
  Action.emit (.attached config.room config.credentials.isSome)

/-! ## Input -/

/-- The record that a line stands for, given the home room. -/
def recordOf (home line : Text) : Record :=
  match line with
  | '#' :: rest =>
    let room := rest.takeWhile (· != ' ')
    match rest.drop room.length with
    | _ :: text => { channel := room, message := text }
    | [] => { channel := home, message := line }
  | _ => { channel := home, message := line }

/-- The byte that ends a line. -/
def newline : UInt8 := 10

/-- The lines of the input, each with its end; the last one may lack it. -/
def linesOf : List UInt8 → List (List UInt8)
  | [] => []
  | b :: bytes =>
    if b = newline then [b] :: linesOf bytes
    else
      match linesOf bytes with
      | [] => [[b]]
      | line :: lines => (b :: line) :: lines

/-- The byte that may come before the end of a line and belongs to it. -/
def carriageReturn : UInt8 := 13

/-- A line without its end; a line that does not end is left as it is. -/
def withoutEnd (line : List UInt8) : List UInt8 :=
  match line.reverse with
  | b :: rest =>
    if b ≠ newline then line
    else if rest.head? = some carriageReturn then rest.tail.reverse
    else rest.reverse
  | [] => line

/-- Handles a line as a batch of one record; tells whether the input can be read on. -/
def hear {ε : Type} (line : List UInt8) : Action State ε Bool := do
  match Utf8.decode (withoutEnd line) with
  | .error e =>
    Action.emit (.inputClosed e.message)
    return false
  | .ok text =>
    let s ← Action.get
    bot.process [recordOf s.world.config.room text]
    return true

/-- Handles lines until the input cannot be read on. -/
def hearAll {ε : Type} : List (List UInt8) → Action State ε Unit
  | [] => return ()
  | line :: lines => do
    if ← hear line then hearAll lines

/-! ## Output -/

/-- The line of a message that is sent. -/
def messageLine (m : Outbound) : Text := '[' :: m.channel ++ "] ".toList ++ m.message ++ ['\n']

/-- What is written on an event: its line if the filter shows it, and the message if one is sent. -/
def written (f : LogFilter) (e : LogEntry) : Text :=
  let line := if f.shows e then e.line f ++ ['\n'] else []
  match e.event with
  | .sending m => line ++ messageLine m
  | _ => line

/-- What is written on all events in order. -/
def writtenAll (f : LogFilter) (log : List LogEntry) : Text := log.flatMap (written f)

/-! ## The program -/

/-- The first line of some complaints, of which one may have several. -/
def firstLine (complaints : List Text) : Text :=
  (complaints.head?.getD []).takeWhile (· != '\n')

/-- The end of a program that is stopped where it stands. -/
def stopped (complaints : List Text) : Exit := { code := 101, complaint := firstLine complaints }

/-- The filter in force, with what there is to complain about, or the end of the program: directives
from outside win over the settings if all of them are understood. -/
def filterOf (directives : Option Text) (level : Text) : Except Exit (LogFilter × List Text) :=
  match directives.map LogFilter.parse with
  | some (.ok f) => .ok (f, [])
  | some (.error .torn) => .error (stopped [])
  | _ =>
    let found := LogFilter.parseLenient level
    if found.isTorn then .error (stopped found.complaints)
    else .ok (found.filter, found.complaints)

/-- Where the settings are looked for; arguments that are not followed choose nothing. -/
def settingsPath (args : List Text) : Text :=
  match Arguments.parse args with
  | .ok a => a.config.getD Settings.usualPath
  | .error _ => Settings.usualPath

/-- What is known before the first line. -/
structure Ready where
  filter : LogFilter
  complaints : List Text
  /-- The run up to here. -/
  start : Run State BotError Unit

/-- Everything before the first line, from the arguments, what paths lead to, and the directives for
the log; or the end of the program. -/
def prepare (args : List Text) (look : Text → Option FolderItem) (directives : Option Text) :
    Except Exit Ready :=
  match Arguments.parse args with
  | .error .help => .error { code := 0, out := ArgumentError.helpText }
  | .error e => .error { code := 2, complaint := firstLine [e.headline] }
  | .ok a =>
    let path := settingsPath args
    match Settings.ofItem path (look path) with
    | .error _ => .error { code := 1, complaint := "Error: failed to load settings".toList }
    | .ok s =>
      let s := a.apply s
      (filterOf directives s.level).map fun (filter, complaints) =>
        { filter, complaints, start := connect.run (initial s) }

/-- A whole run of the program beside a folder. -/
def program (args : List Text) (folder : Folder) (directives : Option Text) (input : List UInt8) :
    Exit :=
  match prepare args folder.look directives with
  | .error e => e
  | .ok r =>
    let rest : Run State BotError Unit := (hearAll (linesOf input)).run r.start.world
    { code := 0
      out := writtenAll r.filter (r.start.log ++ rest.log)
      complaint := firstLine r.complaints }

end Switchboard.Console
