import Switchboard.Config
import Switchboard.Folder
import Switchboard.Toml.Read

/-!
# Settings

Everything a host needs to start a bot, from a file that may be missing and may leave out anything.

* `Settings.load`: the settings of a path.
* `Settings.ofDocument`: the settings of a document.
-/

namespace Switchboard

/-- Everything a host needs to start a bot. -/
structure Settings where
  /-- What is logged unless the environment says otherwise. -/
  level : Text := "info".toList
  bot : Config := {}
  commands : CommandSettings := {}
  deriving DecidableEq

/-- Why settings could not be put to use. -/
inductive SettingsError where
  /-- The file is there but cannot be read. -/
  | unreadable (path reason : Text)
  /-- The file holds no settings. -/
  | illFormed (path : Text)
  /-- Logging was set up before. -/
  | loggingTaken
  deriving DecidableEq

/-- The wording of an error. -/
def SettingsError.message : SettingsError → Text
  | unreadable path reason =>
    "failed to read settings file at ".toList ++ path ++ ": ".toList ++ reason
  | illFormed path => "failed to parse settings file at ".toList ++ path
  | loggingTaken =>
    "failed to initialize logging: a global default trace dispatcher has already been set".toList

namespace Settings

open Toml (Value Members)

/-! ## Values of one shape -/

/-- A string. -/
def text? : Value → Option Text
  | .string s => some s
  | _ => none

/-- A boolean. -/
def bool? : Value → Option Bool
  | .boolean b => some b
  | _ => none

/-- An array of strings. -/
def texts? : Value → Option (List Text)
  | .array items => items.mapM text?
  | _ => none

/-! ## Sections -/

/-- A key of a section, and how its value changes the settings. -/
structure Key where
  name : Text
  apply : Value → Settings → Option Settings

/-- A key whose value is read by `read?` and set by `put`. -/
def key {α : Type} (name : String) (read? : Value → Option α) (put : α → Settings → Settings) :
    Key :=
  { name := name.toList, apply := fun v s => (read? v).map (put · s) }

/-- The section on logging. -/
def loggingKeys : List Key := [key "level" text? fun level s => { s with level }]

/-- The section on the bot. -/
def botKeys : List Key :=
  [ key "room" text? fun room s => { s with bot := { s.bot with room } },
    key "global" bool? fun global s => { s with bot := { s.bot with global } },
    key "credentials" text? fun c s => { s with bot := { s.bot with credentials := some c } } ]

/-- The section on commands. -/
def commandKeys : List Key :=
  [ key "prefixes" texts? fun prefixes s => { s with commands := { s.commands with prefixes } },
    key "enable_pipes" bool? fun pipes s => { s with commands := { s.commands with pipes } } ]

/-- All sections. -/
def sections : List (Text × List Key) :=
  [ ("logging".toList, loggingKeys), ("bot".toList, botKeys), ("commands".toList, commandKeys) ]

/-- The settings changed by the keys that a table has; other keys are passed over. -/
def applyTable (keys : List Key) (ms : Members) (s : Settings) : Option Settings :=
  keys.foldlM (fun s k => match ms.find? k.name with
    | some v => k.apply v s
    | none => some s) s

/-- The settings changed by the values of all keys in order; further values are passed over. -/
def applyInOrder : List Key → List Value → Settings → Option Settings
  | [], _, s => some s
  | _ :: _, [], _ => none
  | k :: ks, v :: vs, s => k.apply v s >>= applyInOrder ks vs

/-- The settings changed by a section: a table, an array of all its values, or a time, which has no
keys. -/
def applySection (keys : List Key) (s : Settings) : Value → Option Settings
  | .table _ ms => applyTable keys ms s
  | .array items => applyInOrder keys items s
  | .time _ => some s
  | _ => none

/-- The settings of a document over the usual ones. -/
def ofDocument (ms : Members) : Option Settings :=
  sections.foldlM (fun s (name, keys) => match ms.find? name with
    | some v => applySection keys s v
    | none => some s) {}

/-! ## Files -/

/-- Where settings are looked for if no path is given. -/
def usualPath : Text := "chatpipe.toml".toList

/-- The settings of what a path leads to; a path that leads nowhere has the usual ones. -/
def ofItem (path : Text) : Option FolderItem → Except SettingsError Settings
  | none => .ok {}
  | some .directory => .error (.unreadable path "Is a directory (os error 21)".toList)
  | some (.file bytes) =>
    match Utf8.decode bytes with
    | .error _ => .error (.unreadable path "stream did not contain valid UTF-8".toList)
    | .ok text =>
      match Toml.parse text >>= ofDocument with
      | none => .error (.illFormed path)
      | some s => .ok s

/-- The settings at a path in a folder. -/
def load (folder : Folder) (path : Option Text) : Except SettingsError Settings :=
  let path := path.getD usualPath
  ofItem path (folder.look path)

/-- Sets up logging after the settings are known; in a process that has done so before, this
fails. -/
def initLogging (alreadyDone : Bool) (s : Settings) : Except SettingsError Settings :=
  if alreadyDone then .error .loggingTaken else .ok s

end Settings

end Switchboard
