import Switchboard.Command.Parse
import Switchboard.Text.Blank

/-!
# Pipes of commands

The segments of a pipe run from left to right, each with what the one before it answered as a
further argument.

* `threaded`: what an answer passes on.
* `parsePiped`: runs a message as a pipe.
* `consume`: the same as a bot's consumer.
-/

namespace Switchboard

/-- What one segment passes on to the next. -/
inductive Threaded where
  /-- No argument. -/
  | nothing
  /-- One argument. -/
  | text (t : Text)
  /-- Something that cannot be an argument; the pipe ends. -/
  | halt
  deriving DecidableEq

/-- What data passes on: a string itself, an array its first item. -/
def Json.threaded : Json → Threaded
  | .null => .nothing
  | .string t => .text t
  | .array (.string t :: _) => .text t
  | .array [] | .array (.null :: _) => .halt
  | .array (v :: _) => .text v.write
  | _ => .halt

/-- What an answer passes on. -/
def CommandResult.threaded : CommandResult → Threaded
  | .silent => .nothing
  | .reply t | .redirect t _ => .text t
  | .data v => v.threaded

/-- The further arguments of the next segment, if there is to be one. -/
def Threaded.extra? : Threaded → Option (List Text)
  | .nothing => some []
  | .text t => some [t]
  | .halt => none

/-- The segments of a pipe, without the blanks around them. -/
def segments (message : Text) : List Text := (Text.splitOn '|' message).map Text.trim

variable {H M : Type}

/-- Runs the remaining segments behind an answer. -/
def continuePipe (meaning : Meaning H M) (message : Record) :
    CommandResult → List Text → Action (World H M) Failure CommandResult
  | answer, [] => return answer
  | answer, segment :: rest =>
    match answer.threaded.extra? with
    | none => do
      Action.emit (.halted segment)
      return .silent
    | some extra => do
      let next ← parse meaning (message.withMessage segment) extra
      continuePipe meaning message next rest

/-- Runs segments of which the first gets no further argument. -/
def runPipe (meaning : Meaning H M) (message : Record) :
    List Text → Action (World H M) Failure CommandResult
  | [] => return .silent
  | segment :: rest => do
    let answer ← parse meaning (message.withMessage segment) []
    continuePipe meaning message answer rest

/-- Runs the message as a pipe, if pipes are on and it has a bar, and otherwise as one command. -/
def parsePiped (meaning : Meaning H M) (message : Record) :
    Action (World H M) Failure CommandResult := do
  let world ← Action.get
  if world.settings.pipes && message.message.contains '|' then
    runPipe meaning message (segments message.message)
  else parse meaning message []

/-- Reports the record and runs it as a pipe. -/
def consume (meaning : Meaning H M) (message : Record) :
    Action (World H M) Failure CommandResult := do
  Action.emit (.consuming message)
  parsePiped meaning message

end Switchboard
