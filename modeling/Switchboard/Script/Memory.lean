import Switchboard.World

/-!
# Probes

Stages and handlers that watch what reaches them, for trying out a bot.

* `Spy`: a stage that keeps its inputs and gives a verdict it was told.
* `Counter`: the number of calls of a handler.
* `Memory`: all spies and counters, and a trace.
-/

namespace Switchboard.Script

/-- What a spy does with its inputs. -/
inductive Verdict where
  | pass
  | veto
  | fail (reason : Text)
  deriving DecidableEq

/-- A stage that keeps its inputs. -/
structure Spy where
  verdict : Verdict := .pass
  seen : List Record := []
  deriving DecidableEq

/-- The number of calls of one handler, which is told from its predecessors by a serial number. -/
structure Counter where
  serial : Nat
  calls : Nat := 0
  deriving DecidableEq

/-- What probes remember. -/
structure Memory where
  spies : KeyMap Spy := .empty
  counters : KeyMap Counter := .empty
  /-- The number of counters made so far. -/
  made : Nat := 0
  trace : List Text := []
  deriving DecidableEq

namespace Memory

/-- Tells a spy its verdict; a spy that is not there yet is made. -/
def instruct (m : Memory) (id : Text) (verdict : Verdict) : Memory :=
  { m with spies := m.spies.insert id { (m.spies.find? id).getD {} with verdict } }

/-- A spy's verdict on an input, which it keeps. -/
def judge (m : Memory) (id : Text) (r : Record) : Verdict × Memory :=
  let spy := (m.spies.find? id).getD {}
  (spy.verdict, { m with spies := m.spies.insert id { spy with seen := spy.seen ++ [r] } })

/-- Makes a counter in place of the one of its name, and gives its serial number. -/
def newCounter (m : Memory) (id : Text) : Nat × Memory :=
  (m.made, { m with counters := m.counters.insert id { serial := m.made }, made := m.made + 1 })

/-- Counts a call, if the counter has not been replaced. -/
def count (m : Memory) (id : Text) (serial : Nat) : Memory :=
  match m.counters.find? id with
  | some c =>
    if c.serial = serial then
      { m with counters := m.counters.insert id { c with calls := c.calls + 1 } }
    else m
  | none => m

/-- Sets a counter back to zero. -/
def resetCounter (m : Memory) (id : Text) : Memory :=
  match m.counters.find? id with
  | some c => { m with counters := m.counters.insert id { c with calls := 0 } }
  | none => m

/-- Appends to the trace. -/
def note (m : Memory) (t : Text) : Memory := { m with trace := m.trace ++ [t] }

end Memory

/-- Changes the memory of a world. -/
def remember {H ε α : Type} (f : Memory → α × Memory) : Action (World H Memory) ε α :=
  Action.modifyGet fun w =>
    let (a, memory) := f w.memory
    (a, { w with memory })

end Switchboard.Script
