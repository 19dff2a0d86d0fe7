import Switchboard.Script.Memory
import Switchboard.Stage.Tree
import Switchboard.Stage.Usual

/-!
# Scripted stages

Stages given as data, for trying out a bot.

* `Leaf`: stages that are not put together from others.
* `Leaf.run`: what they do.
-/

namespace Switchboard.Script

/-- A stage that is not put together from others. -/
inductive Leaf where
  /-- Notes the message under a name and lets it pass. -/
  | tap (id : Text)
  /-- A spy. -/
  | spy (id : Text)
  | reduceMarkup
  | roomCheck
  /-- The filter for commands, with settings of its own. -/
  | commandFilter (settings : CommandSettings)
  /-- Appends to the message. -/
  | append (text : Text)
  /-- Takes a prefix off the message, and holds back messages without it. -/
  | strip (text : Text)
  /-- Keeps nothing but the message, which comes from another channel; an empty one is held back. -/
  | viaText (channel : Text)
  /-- Lets messages pass that hold a text. -/
  | contains (text : Text)
  /-- Lets records of a channel pass. -/
  | channelIs (channel : Text)
  deriving DecidableEq

variable {H : Type}

/-- A stage from records to their messages. -/
def messageOf {W : Type} : Stage W Record Text := Stage.ofFunction fun r => .ok (some r.message)

/-- A stage from texts to records of a channel; an empty text is held back. -/
def recordOf {W : Type} (channel : Text) : Stage W Text Record := Stage.ofFunction fun t =>
  .ok (if t.isEmpty then none else some { channel, message := t })

/-- What a stage does. -/
def Leaf.run : Leaf → Stage (World H Memory) Record Record
  | tap id => fun r => do
    remember fun m => ((), m.note (id ++ '<' :: r.message))
    return some r
  | spy id => fun r => do
    match ← remember (·.judge id r) with
    | .pass => return some r
    | .veto => return none
    | .fail reason => Action.fail (.plain reason)
  | reduceMarkup => Stage.reduceMarkup
  | roomCheck => Stage.roomCheck
  | commandFilter settings => fun r => do
    let world ← Action.get
    return World.isCommand? { world with settings } r
  | append text => Stage.ofFunction fun r => .ok (some (r.withMessage (r.message ++ text)))
  | strip text => Stage.ofFunction fun r =>
    .ok ((Text.dropPrefix? text r.message).map r.withMessage)
  | viaText channel => messageOf.andThen (recordOf channel)
  | contains text => Stage.filter fun r => Text.occursIn text r.message
  | channelIs channel => Stage.filter fun r => r.channel == channel

/-- The stage a tree of scripted stages stands for. -/
def stage (t : StageTree Leaf) : Stage (World H Memory) Record Record := t.run Leaf.run

end Switchboard.Script
