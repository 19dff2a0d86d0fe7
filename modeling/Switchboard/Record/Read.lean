import Switchboard.Json.Read
import Switchboard.Record

/-!
# Reading records

* `Record.parse`: a record from its JSON text.  Only an object is accepted; it has a channel and a
  message, both strings and both once.
-/

namespace Switchboard.Record

open Json

/-- The members of a record read so far; the further ones with the last one first. -/
structure Partial where
  channel : Option Text := none
  message : Option Text := none
  others : List (Text × Json) := []

/-- Channel and message are strings and come once; any other member is kept. -/
def readMember : MemberReader Partial := fun p key =>
  if key = channelKey then
    match p.channel with
    | some _ => .error (.shape (.duplicateField channelKey))
    | none => .ok fun s => (fun (t, r) => ({ p with channel := some t }, r)) <$> readString s
  else if key = messageKey then
    match p.message with
    | some _ => .error (.shape (.duplicateField messageKey))
    | none => .ok fun s => (fun (t, r) => ({ p with message := some t }, r)) <$> readString s
  else .ok fun s =>
    (fun (v, r) => ({ p with others := (key, v) :: p.others }, r)) <$>
      readValue (depthLimit - 1) s

/-- The record of the members read, if channel and message are among them. -/
def Partial.finish (p : Partial) : Except ReadError Record :=
  match p.channel, p.message with
  | none, _ => .error (.shape (.missingField channelKey))
  | some _, none => .error (.shape (.missingField messageKey))
  | some channel, some message =>
    .ok { channel, message, extra := .ofList p.others.reverse }

/-- A record. -/
def read : Reader Record := fun s =>
  match skipSpace s with
  | '\x7b' :: rest => do
    let (p, rest) ← readMembers readMember {} rest
    return (← p.finish, rest)
  | s => mismatch "struct ChatMessage".toList s

/-- The record a text stands for. -/
def parse (s : Text) : Except ReadError Record := readAll read s

end Switchboard.Record
