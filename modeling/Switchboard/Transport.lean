import Switchboard.Failure

/-!
# Transport

What connects a bot to its rooms.  There is one kind of transport here, the one that keeps what was
sent through it and every attempt to connect; so what is said of messages and connections is said of
bots on it.  Connecting fails for the reason that the transport was given, if any, and for no other;
sending never fails, and reads nothing of the configuration but the home room of the moment, which
is kept with the message.  Neither changes the world of stages and handlers, and they have no access
to the transport: a transport that acts on that world, or a handler that sends by itself, is left
out.

* `Transport.connect`: an attempt to connect.
* `Transport.send`: a message on its way out.
-/

namespace Switchboard

/-- A message on its way out. -/
structure Outbound where
  message : Text
  channel : Text
  global : Bool
  showBadge : Bool
  deriving DecidableEq

/-- A message that was sent, with the home room at that moment. -/
structure Delivery where
  message : Outbound
  home : Text
  deriving DecidableEq

/-- The transport and what went through it. -/
structure Transport where
  /-- What was sent, in order. -/
  sent : List Delivery := []
  /-- Room and credentials of every attempt to connect, in order. -/
  connections : List (Text × Option Text) := []
  /-- Why connecting fails, if it does. -/
  refusal : Option Text := none
  /-- Who is watching. -/
  viewers : List Text := []
  deriving DecidableEq

namespace Transport

/-- Tries to connect. -/
def connect (t : Transport) (room : Text) (credentials : Option Text) :
    Except Failure Unit × Transport :=
  (match t.refusal with
    | some reason => .error (.plain reason)
    | none => .ok (),
   { t with connections := t.connections ++ [(room, credentials)] })

/-- Sends a message. -/
def send (t : Transport) (d : Delivery) : Transport := { t with sent := t.sent ++ [d] }

end Transport

end Switchboard
