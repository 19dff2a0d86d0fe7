import Switchboard.Config
import Switchboard.Json.Skip

/-!
# Configuration as JSON

Both kinds of settings are read from an object, whose unknown members are passed over and whose
missing ones have their usual values, or from an array of the values in order.

* `Config.parse`, `Config.write`; `CommandSettings.parse`, `CommandSettings.write`.
-/

namespace Switchboard

namespace Json

/-- A field by its name, with how its value changes what has been read. -/
structure Setter (σ : Type) where
  name : Text
  read : σ → Reader σ

/-- The member of a known field, which comes once, or one that is passed over. -/
def fieldMember {σ : Type} (fields : List (Setter σ)) : MemberReader (List Text × σ) :=
  fun (seen, state) key =>
    match fields.find? (·.name = key) with
    | none => .ok fun s => (fun r => ((seen, state), r)) <$> skipValue s
    | some field =>
      if key ∈ seen then .error (.shape (.duplicateField key))
      else .ok fun s => (fun (t, r) => ((key :: seen, t), r)) <$> field.read state s

/-- The values of the fields in order, behind an opening bracket or another value.  Missing ones are
left as they are, and more than there are fields is bad syntax. -/
def readInOrder {σ : Type} : List (Setter σ) → Bool → σ → Reader σ
  | fields, first, state, s =>
    match skipSpace s with
    | [] => .error .endOfText
    | ']' :: rest => .ok (state, rest)
    | c :: rest =>
      match fields with
      | [] => .error .syntaxError
      | field :: fields =>
        if first then field.read state (c :: rest) >>= fun (t, r) => readInOrder fields false t r
        else if c = ',' then field.read state rest >>= fun (t, r) => readInOrder fields false t r
        else .error .syntaxError

/-- A group of fields under a name, as an object or as an array. -/
def readFields {σ : Type} (name : Text) (fields : List (Setter σ)) (start : σ) : Reader σ := fun s =>
  match skipSpace s with
  | '\x7b' :: rest =>
    (fun ((_, t), r) => (t, r)) <$> readMembers (fieldMember fields) ([], start) rest
  | '[' :: rest => readInOrder fields true start rest
  | s => mismatch ("struct ".toList ++ name) s

/-- A field whose value is put into the state. -/
def field {σ α : Type} (name : String) (reader : Reader α) (put : σ → α → σ) : Setter σ :=
  { name := name.toList
    read := fun state s => (fun (a, r) => (put state a, r)) <$> reader s }

end Json

open Json

namespace Config

/-- The fields of a configuration in order. -/
def fields : List (Setter Config) :=
  [ field "room" readString fun c room => { c with room },
    field "global" readBool fun c global => { c with global },
    field "credentials" (readOptional readString) fun c credentials => { c with credentials } ]

/-- The configuration a JSON text stands for. -/
def parse (s : Text) : Except ReadError Config :=
  readAll (readFields "BotConfig".toList fields {}) s

/-- The JSON text of a configuration. -/
def write (c : Config) : Text :=
  (Json.object
    [ ("room".toList, .string c.room),
      ("global".toList, .bool c.global),
      ("credentials".toList, match c.credentials with
        | none => .null
        | some t => .string t) ]).write

end Config

namespace CommandSettings

/-- The fields of the command settings in order. -/
def fields : List (Setter CommandSettings) :=
  [ field "prefixes" readStrings fun c prefixes => { c with prefixes },
    field "enable_pipes" readBool fun c pipes => { c with pipes } ]

/-- The command settings a JSON text stands for. -/
def parse (s : Text) : Except ReadError CommandSettings :=
  readAll (readFields "ParserSettings".toList fields {}) s

/-- The JSON text of command settings. -/
def write (c : CommandSettings) : Text :=
  (Json.object
    [ ("prefixes".toList, .array (c.prefixes.map .string)),
      ("enable_pipes".toList, .bool c.pipes) ]).write

end CommandSettings

end Switchboard
