import Switchboard.Command.Basic
import Switchboard.Text.Quoted
import Switchboard.Transport

/-!
# The log

What a bot reports while it works, as events.  An event knows its level, its wording and its fields;
how they are laid out is for whoever shows them.

* `Event`: everything that is reported.
* `Event.level`, `Event.wording`, `Event.fields`: what is shown of an event.
* `LogEntry`: an event, perhaps within a batch.
-/

namespace Switchboard

/-- Why a bot did not handle a record, or did not start. -/
inductive BotError where
  /-- A stage failed. -/
  | stage (cause : Failure)
  /-- The consumer failed. -/
  | consumer (cause : Failure)
  /-- The transport could not connect. -/
  | connection (cause : Failure)
  deriving DecidableEq, Repr

namespace BotError

/-- The failure behind the error. -/
def cause : BotError → Failure
  | stage cause | consumer cause | connection cause => cause

/-- The wording of an error. -/
def message : BotError → Text
  | stage cause => "stage error: ".toList ++ cause.message
  | consumer cause => "consumer error: ".toList ++ cause.message
  | connection cause => "transport failed to initialize: ".toList ++ cause.message

/-- The wordings of the failures behind the error, nearest first. -/
def causes (e : BotError) : List Text := e.cause.message :: e.cause.causes

end BotError

/-! ## Events -/

/-- How much an event matters. -/
inductive Level where
  | trace
  | debug
  | info
  | warn
  | error
  deriving DecidableEq, Repr

/-- What is reported. -/
inductive Event where
  /-- A stage let its input pass. -/
  | passed (stage : Text)
  /-- A stage held its input back. -/
  | vetoed (stage : Text)
  /-- A stage failed. -/
  | failed (stage : Text) (error : Failure)
  /-- A command took the place of another of its name. -/
  | replaced (name : Text)
  /-- A record reached the command parser. -/
  | consuming (message : Record)
  /-- A name was looked up that no command has. -/
  | unknownCommand (name : Text)
  /-- A command that only runs in the home room was called elsewhere. -/
  | homeRoomOnly (name channel : Text)
  /-- A command is about to run. -/
  | running (name : Text) (invocation : Invocation)
  /-- A pipe ended before a segment, because what came before it cannot be passed on. -/
  | halted (segment : Text)
  /-- The bot is about to connect. -/
  | connecting (bot room : Text) (anonymous : Bool)
  /-- A record could not be handled. -/
  | dropped (error : BotError)
  /-- The consumer answered with data. -/
  | dataKept (value : Json)
  /-- A message goes out. -/
  | sending (message : Outbound)
  /-- The console is ready for commands. -/
  | ready (commands : List Text)
  /-- The console is connected. -/
  | attached (room : Text) (authenticated : Bool)
  /-- The console's input cannot be read on. -/
  | inputClosed (reason : Text)
  deriving DecidableEq

/-- The value of a field. -/
inductive FieldValue where
  | flag (b : Bool)
  | count (n : Nat)
  /-- A text that is shown in quotes. -/
  | quoted (s : Text)
  /-- A text that is shown as it is. -/
  | shown (s : Text)
  deriving DecidableEq

/-- The batch during which something is reported. -/
structure Batch where
  bot : Text
  size : Nat
  deriving DecidableEq

/-- An event, and the batch during which it was reported. -/
structure LogEntry where
  event : Event
  batch : Option Batch := none
  deriving DecidableEq

namespace Event

/-- How much an event matters. -/
def level : Event → Level
  | passed _ => .trace
  | vetoed _ | replaced _ | consuming _ | homeRoomOnly _ _ | running _ _ | halted _ | dataKept _ =>
    .debug
  | unknownCommand _ | connecting _ _ _ | sending _ | ready _ | attached _ _ => .info
  | failed _ _ | dropped _ => .warn
  | inputClosed _ => .error

/-- The wording of an event. -/
def wording : Event → Text
  | passed _ => "passed".toList
  | vetoed _ => "vetoed".toList
  | failed _ _ => "failed".toList
  | replaced _ => "replaced existing command".toList
  | consuming _ => "consuming".toList
  | unknownCommand name => "no command named ".toList ++ name ++ " found".toList
  | homeRoomOnly _ _ => "command is home-room only".toList
  | running _ _ => "running command".toList
  | halted _ => "pipe halted on non-text result".toList
  | connecting _ _ _ => "connecting".toList
  | dropped _ => "dropped message".toList
  | dataKept _ => "consumer returned data, nothing to send".toList
  | sending m => "Sent message: \"".toList ++ m.message ++ ['"']
  | ready _ => "ready, type `!help`".toList
  | attached _ _ => "console attached".toList
  | inputClosed _ => "stdin closed".toList

/-- The fields of an event in order. -/
def fields : Event → List (String × FieldValue)
  | passed stage | vetoed stage => [("stage", .quoted stage)]
  | failed stage error => [("stage", .quoted stage), ("error", .shown error.message)]
  | replaced name => [("command", .quoted name)]
  | consuming m => [("channel", .shown m.channel), ("message", .shown m.message)]
  | unknownCommand name => [("command", .quoted name)]
  | homeRoomOnly name channel => [("command", .quoted name), ("channel", .shown channel)]
  | running name inv => [("command", .quoted name), ("args", .shown (Text.quotedList inv.args))]
  | halted segment => [("segment", .quoted segment)]
  | connecting bot room anonymous =>
    [("bot", .shown bot), ("room", .shown room), ("anonymous", .flag anonymous)]
  | dropped error => [("error", .shown error.message)]
  | dataKept value => [("value", .shown value.write)]
  | sending m => [("channel", .shown m.channel)]
  | ready commands => [("commands", .shown (Text.quotedList commands))]
  | attached room authenticated =>
    [("room", .quoted room), ("authenticated", .flag authenticated)]
  | inputClosed reason => [("error", .shown reason)]

end Event

/-- The fields of a batch. -/
def Batch.fields (b : Batch) : List (String × FieldValue) :=
  [("bot", .shown b.bot), ("size", .count b.size)]

end Switchboard
