import Switchboard.Json.Basic

/-!
# Records

A record is one message of a room, with whatever other fields came with it.

* `Record.withMessage`, `Record.withField`: changed records.
* `Record.write`: the JSON text of a record.
-/

namespace Switchboard

/-- A message that arrived on a channel, and its further fields. -/
structure Record where
  channel : Text
  message : Text
  extra : KeyMap Json := .empty
  deriving DecidableEq

namespace Record

/-- The record with another message. -/
def withMessage (r : Record) (message : Text) : Record := { r with message }

/-- The record with a further field; a field of the same name is replaced. -/
def withField (r : Record) (name : Text) (value : Json) : Record :=
  { r with extra := r.extra.insert name value }

/-- The further field of a name. -/
def field? (r : Record) (name : Text) : Option Json := r.extra.find? name

/-- The name of the channel's member. -/
def channelKey : Text := "channel".toList

/-- The name of the message's member. -/
def messageKey : Text := "message".toList

/-- The members a record is written as: channel, message, and then the further fields. -/
def members (r : Record) : List (Text × Json) :=
  (channelKey, .string r.channel) :: (messageKey, .string r.message) :: r.extra.entries

/-- The JSON text of a record. -/
def write (r : Record) : Text := (Json.object r.members).write

/-- Equality of records up to the signs of zeros. -/
def agrees (r s : Record) : Bool := (Json.object r.members).agrees (.object s.members)

end Record

end Switchboard
