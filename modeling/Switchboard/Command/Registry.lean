import Switchboard.Command.Basic
import Switchboard.Text.Quoted

/-!
# The registry of commands

Commands by name.  The handler of a command is kept as a value of any type `H`; what it does is for
the parser's user to say.

* `Registry.register`, `Registry.unregister`, `Registry.lookup`: the operations.
* `Registry.names`, `Registry.customPrefixes`: what is registered.
* `Registry.lookup_register`, `Registry.lookup_unregister`: what the changes do to a look-up.
-/

namespace Switchboard

/-- A registered command. -/
structure Entry (H : Type) where
  name : Text
  handler : H
  /-- A prefix of its own, by which messages are recognized besides the usual ones. -/
  customPrefix : Option Text := none
  /-- Whether it runs outside the home room. -/
  global : Bool := true
  deriving DecidableEq

/-- The registered commands by name. -/
structure Registry (H : Type) where
  commands : KeyMap (Entry H) := .empty

namespace Registry

variable {H : Type}

/-- The registry without commands. -/
def empty : Registry H := {}

/-- The command of a name. -/
def lookup (r : Registry H) (name : Text) : Option (Entry H) := r.commands.find? name

/-- Puts a command in the place of one of its name, which is given back. -/
def register (r : Registry H) (e : Entry H) : Option (Entry H) × Registry H :=
  (r.lookup e.name, { commands := r.commands.insert e.name e })

/-- Takes out the command of a name, which is given back. -/
def unregister (r : Registry H) (name : Text) : Option (Entry H) × Registry H :=
  (r.lookup name, { commands := r.commands.erase name })

/-- Whether there is a command of the name. -/
def contains (r : Registry H) (name : Text) : Bool := r.commands.contains name

/-- The names in increasing order. -/
def names (r : Registry H) : List Text := r.commands.keys

/-- The prefixes that commands have of their own. -/
def customPrefixes (r : Registry H) : List Text := r.commands.values.filterMap (·.customPrefix)

/-- The number of commands. -/
def size (r : Registry H) : Nat := r.commands.size

/-- Whether there are no commands. -/
def isEmpty (r : Registry H) : Bool := r.commands.entries.isEmpty

theorem lookup_register (r : Registry H) (e : Entry H) (name : Text) :
    (r.register e).2.lookup name = if name = e.name then some e else r.lookup name :=
  KeyMap.find?_insert r.commands e.name name e

theorem lookup_unregister (r : Registry H) (n name : Text) :
    (r.unregister n).2.lookup name = if name = n then none else r.lookup name :=
  KeyMap.find?_erase r.commands n name

end Registry

/-! ## Descriptions -/

/-- A boolean as a word. -/
def boolWord (b : Bool) : Text := if b then "true".toList else "false".toList

/-- A description of a command for debugging. -/
def Entry.describe {H : Type} (e : Entry H) : Text :=
  "CommandEntry \x7b name: ".toList ++ e.name.quoted ++ ", prefix: ".toList ++
    (match e.customPrefix with
      | none => "None".toList
      | some p => "Some(".toList ++ p.quoted ++ [')']) ++
    ", global: ".toList ++ boolWord e.global ++ ", .. \x7d".toList

/-- A description of the registry for debugging. -/
def Registry.describe {H : Type} (r : Registry H) : Text :=
  "CommandRegistry \x7b commands: ".toList ++ Text.quotedList r.names ++ " \x7d".toList

end Switchboard
