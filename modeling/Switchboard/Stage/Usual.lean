import Switchboard.Markup.Reduce
import Switchboard.Stage.Basic
import Switchboard.World

/-!
# The usual stages

The stages that a bot starts with: markup is reduced, only the rooms the bot attends to are let
through, and of their messages only commands.
-/

namespace Switchboard.Stage

variable {H M : Type}

/-- The record with its message reduced to plain text. -/
def reduceMarkup : Stage (World H M) Record Record := fun r => do
  let text ← Action.ofExcept (Markup.reduce r.message)
  return some (r.withMessage text)

/-- Lets records of the channels pass that the bot attends to. -/
def roomCheck : Stage (World H M) Record Record := fun r => do
  let world ← Action.get
  return if world.config.accepts r.channel then some r else none

/-- Lets records pass whose message is a command. -/
def commandFilter : Stage (World H M) Record Record := fun r => do
  let world ← Action.get
  return world.isCommand? r

theorem reduceMarkup_run_of_ok {record : Record} {text : Text}
    (h : Markup.reduce record.message = .ok text) (w : World H M) :
    (reduceMarkup record).run w = ⟨.ok (some (record.withMessage text)), w, []⟩ := by
  rw [reduceMarkup, h]
  rfl

theorem reduceMarkup_run_of_error {record : Record} {e : Failure}
    (h : Markup.reduce record.message = .error e) (w : World H M) :
    (reduceMarkup record).run w = ⟨.error e, w, []⟩ := by
  rw [reduceMarkup, h]
  rfl

theorem roomCheck_run (record : Record) (w : World H M) : (roomCheck record).run w =
    ⟨.ok (if w.config.accepts record.channel then some record else none), w, []⟩ := rfl

theorem commandFilter_run (record : Record) (w : World H M) :
    (commandFilter record).run w = ⟨.ok (w.isCommand? record), w, []⟩ := rfl

/-- The stages that records are normalized by. -/
def usualTransformers : List (Stage (World H M) Record Record) :=
  [reduceMarkup.logged Markup.reduceName]

/-- The stages that decide whether a record reaches the consumer. -/
def usualFilters : List (Stage (World H M) Record Record) :=
  [roomCheck.logged "room_check".toList, commandFilter.logged "is_command".toList]

end Switchboard.Stage
