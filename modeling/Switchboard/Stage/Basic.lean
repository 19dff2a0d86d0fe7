import Switchboard.Action

/-!
# Stages

A stage turns an input into an output, holds it back, or fails.  Stages are put together in two ways:
a chain feeds the output of one into the next, a guard only asks whether there is one.

* `Stage.andThen`, `Stage.guardedBy`: two stages.
* `Stage.chainAll`, `Stage.composeAll`: lists of stages.
* `Stage.logged`: a stage that reports its verdict.
-/

namespace Switchboard

/-- Turns an input into an output, or holds it back, or fails. -/
abbrev Stage (W α β : Type) := α → Action W Failure (Option β)

namespace Stage

variable {W α β γ : Type}

/-- Lets everything pass. -/
def identity : Stage W α α := fun x => return some x

/-- Holds everything back. -/
def absent : Stage W α β := fun _ => return none

/-- A stage that may be missing; a missing one holds everything back. -/
def ofOption : Option (Stage W α β) → Stage W α β
  | some f => f
  | none => absent

/-- The outcome of a function. -/
def ofFunction (f : α → Except Failure (Option β)) : Stage W α β := fun x => Action.ofExcept (f x)

/-- Lets the inputs pass that satisfy the predicate. -/
def filter (p : α → Bool) : Stage W α α := fun x => return if p x then some x else none

/-- The second stage on the output of the first. -/
def andThen (first : Stage W α β) (second : Stage W β γ) : Stage W α γ := fun x => do
  match ← first x with
  | none => return none
  | some y => second y

/-- The stage on inputs that the guard lets pass; what the guard makes of them does not matter. -/
def guardedBy (outer : Stage W α γ) (guard : Stage W α β) : Stage W α γ := fun x => do
  match ← guard x with
  | none => return none
  | some _ => outer x

/-- Each stage on the output of the one before it. -/
def chainAll (stages : List (Stage W α α)) : Stage W α α := stages.foldl andThen identity

/-- Each stage on the input itself, as long as those before it let it pass; the output is that of
the last. -/
def composeAll (stages : List (Stage W α α)) : Stage W α α :=
  stages.foldl (fun guard f => f.guardedBy guard) identity

/-- What a stage made of its input, as an event under its name. -/
def verdictEvent (name : Text) : Except Failure (Option β) → Event
  | .ok (some _) => .passed name
  | .ok none => .vetoed name
  | .error e => .failed name e

/-- The stage, which reports its verdict under a name. -/
def logged (name : Text) (f : Stage W α β) : Stage W α β := fun x => do
  let verdict ← Action.attempt (f x)
  Action.emit (verdictEvent name verdict)
  Action.ofExcept verdict

theorem logged_run (name : Text) (f : Stage W α β) (x : α) (w : W) :
    (f.logged name x).run w = ⟨((f x).run w).outcome, ((f x).run w).world,
      ((f x).run w).log ++ [{ event := verdictEvent name ((f x).run w).outcome }]⟩ := by
  rw [logged, Action.run_bind_of_ok (Action.run_attempt (f x) w),
    Action.run_bind_of_ok (Action.run_emit _ _), Action.run_ofExcept]
  rfl

end Stage

end Switchboard
