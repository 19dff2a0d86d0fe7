import Switchboard.World

/-!
# Running a command

A message is a command name and arguments, with single spaces between them and perhaps a prefix in
front.

* `parse`: runs the command of a message.
* `Meaning`: what the handlers of a registry do.
-/

namespace Switchboard

/-- What the handlers of a registry do when they are called. -/
abbrev Meaning (H M : Type) := Entry H → Invocation → Action (World H M) Failure CommandResult

/-- The first word of a text and the words after it, cut at single spaces. -/
def words (body : Text) : Text × List Text :=
  match Text.splitOn ' ' body with
  | [] => ([], [])
  | name :: args => (name, args)

/-- Runs the message as one command, with further arguments behind its own.  An unknown command, or
one that is called outside the home room but only runs there, is silent. -/
def parse {H M : Type} (meaning : Meaning H M) (message : Record) (extra : List Text) :
    Action (World H M) Failure CommandResult := do
  let world ← Action.get
  let body := world.body message.message
  let (name, own) := words body
  match world.registry.lookup name with
  | none =>
    Action.emit (.unknownCommand name)
    return .silent
  | some entry =>
    if !entry.global && !world.config.isHome message.channel then
      Action.emit (.homeRoomOnly name message.channel)
      return .silent
    else
      let invocation : Invocation := { message := message.withMessage body, args := own ++ extra }
      Action.emit (.running name invocation)
      Action.mapError (.command name) (meaning entry invocation)

end Switchboard
