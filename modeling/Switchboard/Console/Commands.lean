import Switchboard.Command.Pipe
import Switchboard.Text.Upper

/-!
# The console's commands

The commands that a bot on the console knows.

* `ConsoleCommand.answer`: what each of them answers.
* `ConsoleCommand.entries`: how they are registered.
-/

namespace Switchboard

/-- A command of the console. -/
inductive ConsoleCommand where
  /-- Replies its arguments. -/
  | echo
  /-- Replies its arguments in upper case. -/
  | upper
  /-- Replies its arguments backwards. -/
  | rev
  /-- Sends its further arguments to the room named first. -/
  | tell
  /-- Replies the names of all commands. -/
  | help
  deriving DecidableEq

namespace ConsoleCommand

/-- The name a command is called by. -/
def name : ConsoleCommand → Text
  | echo => "echo".toList
  | upper => "upper".toList
  | rev => "rev".toList
  | tell => "tell".toList
  | help => "help".toList

/-- All commands in the order of their registration. -/
def all : List ConsoleCommand := [echo, upper, rev, tell, help]

/-- What a command answers, given the names of all registered ones. -/
def answer (names : List Text) (inv : Invocation) : ConsoleCommand → CommandResult
  | echo => .reply inv.rest
  | upper => .reply inv.rest.upper
  | rev => .reply inv.rest.reverse
  | tell =>
    match inv.args with
    | room :: word :: words => .redirect (Text.joinWith [' '] (word :: words)) room
    | _ => .reply "usage: !tell <room> <text>".toList
  | help => .reply ("commands: ".toList ++ Text.joinWith ", ".toList names)

/-- A command as an entry of a registry whose handlers are made by `handler`; only `tell` is bound to
the home room. -/
def entry {H : Type} (handler : ConsoleCommand → H) (c : ConsoleCommand) : Entry H :=
  { name := c.name, handler := handler c, global := c ≠ tell }

/-- The entries of all commands. -/
def entries {H : Type} (handler : ConsoleCommand → H) : List (Entry H) := all.map (entry handler)

/-- The command as an action, which looks up the registered names. -/
def run {H M : Type} (c : ConsoleCommand) (inv : Invocation) :
    Action (World H M) Failure CommandResult := do
  let world ← Action.get
  return c.answer world.registry.names inv

end ConsoleCommand

/-- Registers entries in order. -/
def World.registerAll {H M ε : Type} : List (Entry H) → Action (World H M) ε Unit
  | [] => return ()
  | e :: es => do
    let _ ← World.register e
    World.registerAll es

end Switchboard
