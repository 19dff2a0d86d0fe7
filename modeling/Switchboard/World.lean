import Switchboard.Action
import Switchboard.Command.Registry
import Switchboard.Config

/-!
# The world of a bot

What stages and handlers see and may change: the configuration, the command settings, the registry,
and a memory of their own.

* `World.matchedPrefix?`: the longest prefix in force that a text starts with.
* `World.isCommand?`: the filter for commands.
* `World.configure`, `World.settle`: changes of the configuration and of the command settings.
* `World.register`, `World.unregister`: changes of the registry as actions.
-/

namespace Switchboard

/-- What stages and handlers work on.  `H` is the type of handlers, `M` that of their memory. -/
structure World (H M : Type) where
  config : Config := {}
  settings : CommandSettings := {}
  registry : Registry H := .empty
  memory : M

/-- The longest of the texts in UTF-8, and of several the last. -/
def longest? (texts : List Text) : Option Text :=
  texts.foldl (fun best t => match best with
    | none => some t
    | some b => if b.size8 ≤ t.size8 then some t else some b) none

/-- The longest of the prefixes that the text starts with. -/
def longestPrefix? (prefixes : List Text) (text : Text) : Option Text :=
  longest? (prefixes.filter (·.isPrefixOf text))

namespace World

variable {H M ε : Type}

/-- All prefixes in force: the usual ones and those of commands. -/
def prefixes (w : World H M) : List Text := w.settings.prefixes ++ w.registry.customPrefixes

/-- The longest prefix in force that the text starts with. -/
def matchedPrefix? (w : World H M) (text : Text) : Option Text := longestPrefix? w.prefixes text

/-- The record itself, if its message is a command. -/
def isCommand? (w : World H M) (r : Record) : Option Record :=
  (w.matchedPrefix? r.message).map fun _ => r

/-- The text without the prefix it matches. -/
def body (w : World H M) (text : Text) : Text :=
  match w.matchedPrefix? text with
  | some p => text.drop p.length
  | none => text

/-! ## Changes -/

/-- Changes the configuration. -/
def configure (f : Config → Config) : Action (World H M) ε Unit :=
  Action.modify fun w => { w with config := f w.config }

/-- Moves home to another room. -/
def setRoom (room : Text) : Action (World H M) ε Unit := configure fun c => { c with room }

/-- Sets whether messages of all channels are attended to. -/
def setGlobal (global : Bool) : Action (World H M) ε Unit := configure fun c => { c with global }

/-- Sets what the bot connects with. -/
def setCredentials (credentials : Option Text) : Action (World H M) ε Unit :=
  configure fun c => { c with credentials }

/-- Puts another configuration in the place of the one there is. -/
def setConfig (config : Config) : Action (World H M) ε Unit := configure fun _ => config

/-- Changes the command settings. -/
def settle (f : CommandSettings → CommandSettings) : Action (World H M) ε Unit :=
  Action.modify fun w => { w with settings := f w.settings }

/-- Sets the usual prefixes. -/
def setPrefixes (prefixes : List Text) : Action (World H M) ε Unit :=
  settle fun s => { s with prefixes }

/-- Sets whether commands may be joined by pipes. -/
def setPipes (pipes : Bool) : Action (World H M) ε Unit := settle fun s => { s with pipes }

/-- Puts other command settings in the place of those there are. -/
def setSettings (settings : CommandSettings) : Action (World H M) ε Unit := settle fun _ => settings

/-- Registers a command and gives back the one it replaces, which is reported. -/
def register (e : Entry H) : Action (World H M) ε (Option (Entry H)) := do
  let old ← Action.modifyGet fun w =>
    let (old, registry) := w.registry.register e
    (old, { w with registry })
  if let some replaced := old then Action.emit (.replaced replaced.name)
  return old

/-- A registration gives back what was there, reports it, and changes the registry alone. -/
theorem register_run (e : Entry H) (w : World H M) :
    (register e : Action (World H M) ε _).run w =
      ⟨.ok (w.registry.lookup e.name), { w with registry := (w.registry.register e).2 },
        (w.registry.lookup e.name).toList.map fun old => ⟨.replaced old.name, none⟩⟩ := by
  have hmodify : (Action.modifyGet fun w : World H M =>
      ((w.registry.register e).1, { w with registry := (w.registry.register e).2 }) :
        Action (World H M) ε _).run w =
      ⟨.ok (w.registry.lookup e.name), { w with registry := (w.registry.register e).2 }, []⟩ := rfl
  rw [register, Action.run_bind_of_ok hmodify]
  cases w.registry.lookup e.name <;> rfl

/-- Takes a command out of the registry and gives it back. -/
def unregister (name : Text) : Action (World H M) ε (Option (Entry H)) :=
  Action.modifyGet fun w =>
    let (old, registry) := w.registry.unregister name
    (old, { w with registry })

/-! ## Description -/

/-- A description of the command parser for debugging. -/
def describeParser (w : World H M) : Text :=
  "CommandParser \x7b registry: ".toList ++ w.registry.describe ++
    ", settings: ParserSettings \x7b prefixes: ".toList ++ Text.quotedList w.settings.prefixes ++
    ", enable_pipes: ".toList ++ boolWord w.settings.pipes ++ " \x7d, .. \x7d".toList

end World

end Switchboard
