import Switchboard.Console.Commands
import Switchboard.Json.Read
import Switchboard.Script.Memory

/-!
# Scripted handlers

Handlers given as data, for trying out a bot: some answer from their arguments, one changes the
bot's world, and one calls the parser again.

* `Handler`, `Edit`: the scripts.
* `Handler.run`: what they do.
-/

namespace Switchboard.Script

mutual

/-- A handler given as data. -/
inductive Handler where
  /-- Replies its arguments. -/
  | echo
  /-- Replies its arguments with ASCII letters in upper case. -/
  | upper
  /-- Replies the JSON text of its arguments. -/
  | args
  /-- Answers with what it was called with as data. -/
  | inspect
  /-- Replies one argument. -/
  | arg (index : Nat)
  /-- Answers nothing. -/
  | mute
  /-- Sends its arguments to a room. -/
  | tell (room : Text)
  /-- Answers with its arguments read as JSON. -/
  | json
  /-- Fails with its arguments. -/
  | fail
  /-- Gives a fixed answer or failure. -/
  | result (r : Except Text CommandResult)
  /-- Counts its calls and gives a fixed answer. -/
  | count (id : Text) (serial : Nat) (r : CommandResult)
  /-- Hands its arguments to the parser. -/
  | parser
  /-- Changes the world and gives a fixed answer or failure. -/
  | edit (edits : List Edit) (r : Except Text CommandResult)
  /-- A command of the console. -/
  | console (c : ConsoleCommand)

/-- A change of the world. -/
inductive Edit where
  | setRoom (room : Text)
  | setGlobal (on : Bool)
  | setCredentials (credentials : Option Text)
  | replaceConfig (config : Config)
  | setPrefixes (prefixes : List Text)
  | setPipes (on : Bool)
  | setSettings (settings : CommandSettings)
  | register (name : Text) (handler : Handler) (customPrefix : Option Text) (global : Bool)
  | unregister (name : Text)

end

/-- The world of scripted bots. -/
abbrev ScriptWorld := World Handler Memory

/-- The answer or the plain failure. -/
def ofResult {W : Type} : Except Text CommandResult → Action W Failure CommandResult
  | .ok r => return r
  | .error reason => Action.fail (.plain reason)

/-- The handler with a counter of its own, if it counts. -/
def Handler.prepare {ε : Type} : Handler → Action ScriptWorld ε Handler
  | .count id _ r => do
    let serial ← remember (·.newCounter id)
    return .count id serial r
  | h => return h

/-- Registers a prepared handler and gives back the command it replaces. -/
def register {ε : Type} (name : Text) (handler : Handler) (customPrefix : Option Text)
    (global : Bool) : Action ScriptWorld ε (Option (Entry Handler)) := do
  let handler ← handler.prepare
  World.register { name, handler, customPrefix, global }

/-- Makes a change. -/
def Edit.run {ε : Type} : Edit → Action ScriptWorld ε Unit
  | setRoom room => World.setRoom room
  | setGlobal on => World.setGlobal on
  | setCredentials credentials => World.setCredentials credentials
  | replaceConfig config => World.setConfig config
  | setPrefixes prefixes => World.setPrefixes prefixes
  | setPipes on => World.setPipes on
  | setSettings settings => World.setSettings settings
  | register name handler customPrefix global => do
    let _ ← Script.register name handler customPrefix global
  | unregister name => do
    let _ ← World.unregister name

/-- Makes changes in order. -/
def Edit.runAll {ε : Type} : List Edit → Action ScriptWorld ε Unit
  | [] => return ()
  | e :: es => do
    e.run
    Edit.runAll es

/-- The arguments as a JSON value. -/
def argsJson (inv : Invocation) : Json := .array (inv.args.map .string)

/-- What an inspecting handler answers. -/
def inspection (inv : Invocation) : Json :=
  .ofMembers
    [ (Record.channelKey, .string inv.message.channel),
      (Record.messageKey, .string inv.message.message),
      ("extra".toList, .object inv.message.extra.entries),
      ("args".toList, argsJson inv) ]

/-- How deep handlers may call the parser inside one another. -/
def nestingLimit : Nat := 1000

/-- What a handler does, if it may call the parser so often inside itself. -/
def Handler.runWithin : Nat → Meaning Handler Memory
  | depth, e, inv =>
    match e.handler with
    | .echo => return .reply inv.rest
    | .upper => return .reply inv.rest.asciiUpper
    | .args => return .reply (argsJson inv).write
    | .inspect => return .data (inspection inv)
    | .arg index => return ((inv.args[index]?).map .reply).getD .silent
    | .mute => return .silent
    | .tell room => return .redirect inv.rest room
    | .json =>
      match Json.parse inv.rest with
      | .ok v => return .data v
      | .error _ => return .silent
    | .fail => Action.fail (.plain inv.rest)
    | .result r => ofResult r
    | .count id serial r => do
      remember fun m => ((), m.count id serial)
      return r
    | .parser =>
      match depth with
      | 0 => Action.fail (.plain "calls are nested too deep".toList)
      | depth + 1 => consume (runWithin depth) (inv.message.withMessage inv.rest)
    | .edit edits r => do
      Edit.runAll edits
      ofResult r
    | .console c => c.run inv

/-- What a handler does. -/
def Handler.run : Meaning Handler Memory := Handler.runWithin nestingLimit

end Switchboard.Script
