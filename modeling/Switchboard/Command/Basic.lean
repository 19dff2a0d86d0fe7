import Switchboard.Failure
import Switchboard.Record

/-!
# Commands and their results

* `Invocation`: what a command's handler is called with.
* `CommandResult`: what a handler answers.
* `ToCommandResult`: which other values count as an answer.
-/

namespace Switchboard

/-- What a handler is called with: the record without the command's prefix, and the arguments. -/
structure Invocation where
  message : Record
  args : List Text
  deriving DecidableEq

/-- All arguments with single spaces between them. -/
def Invocation.rest (inv : Invocation) : Text := Text.joinWith [' '] inv.args

/-- What a handler answers. -/
inductive CommandResult where
  /-- Nothing to send. -/
  | silent
  /-- A text for the home room. -/
  | reply (text : Text)
  /-- A text for another room. -/
  | redirect (text channel : Text)
  /-- Data for the next command of a pipe, which is never sent. -/
  | data (value : Json)
  deriving DecidableEq

namespace CommandResult

/-- Whether there is nothing to send or to pass on. -/
def isSilent : CommandResult → Bool
  | silent => true
  | _ => false

/-- The text that would be sent. -/
def text? : CommandResult → Option Text
  | reply text | redirect text _ => some text
  | silent | data _ => none

end CommandResult

/-! ## Values that count as answers -/

/-- Values of the type stand for an answer or a failure. -/
class ToCommandResult (α : Type) where
  /-- The answer a value stands for. -/
  result : α → Except Failure CommandResult

namespace ToCommandResult

instance : ToCommandResult CommandResult := ⟨.ok⟩

/-- No value, nothing to send. -/
instance : ToCommandResult Unit := ⟨fun _ => .ok .silent⟩

/-- A text is a reply. -/
instance : ToCommandResult Text := ⟨fun t => .ok (.reply t)⟩

/-- A pair of a text and a channel goes to that channel. -/
instance : ToCommandResult (Text × Text) := ⟨fun (text, channel) => .ok (.redirect text channel)⟩

/-- A JSON value is data. -/
instance : ToCommandResult Json := ⟨fun v => .ok (.data v)⟩

/-- A value that is not there is silence. -/
instance {α : Type} [ToCommandResult α] : ToCommandResult (Option α) where
  result
    | none => .ok .silent
    | some a => result a

/-- A failure stays one. -/
instance {α : Type} [ToCommandResult α] : ToCommandResult (Except Failure α) where
  result
    | .error e => .error e
    | .ok a => result a

end ToCommandResult

end Switchboard
