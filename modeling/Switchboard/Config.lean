import Switchboard.Text.Basic

/-!
# Configuration

Where a bot is at home, and how commands are written.

* `Config.isHome`, `Config.accepts`: which channels the bot serves.
* `Config.within`: a look at the configuration as if another room were home.
-/

namespace Switchboard

/-- Where a bot is at home and whether it listens everywhere. -/
structure Config where
  room : Text := "global".toList
  global : Bool := false
  credentials : Option Text := none
  deriving DecidableEq, Repr

/-- How commands are marked and whether they may be joined by pipes. -/
structure CommandSettings where
  prefixes : List Text := ["!".toList]
  pipes : Bool := true
  deriving DecidableEq, Repr

namespace Config

/-- Whether a channel is the home room. -/
def isHome (c : Config) (channel : Text) : Bool := c.room == channel

/-- Whether messages of a channel are attended to. -/
def accepts (c : Config) (channel : Text) : Bool := c.global || c.room == channel

/-- What `f` sees of the configuration while another room is home; the configuration itself stays
as it is. -/
def within {α : Type} (c : Config) (room : Text) (f : Config → α) : α × Config :=
  let inside := { c with room }
  (f inside, { inside with room := c.room })

@[simp] theorem within_snd {α : Type} (c : Config) (room : Text) (f : Config → α) :
    (c.within room f).2 = c := rfl

end Config

end Switchboard
