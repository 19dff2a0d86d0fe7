import Switchboard.Proofs.Bot.Watch
import Switchboard.Proofs.Command.Fold
import Switchboard.Proofs.Stage.Notes

/-!
# Handlers that call the parser again

A handler may look at the world, change it, and call the parser, whose handlers may do so in turn.
To speak of the calls at all depths, the code of a handler is a program, and calls are noted beside
the memory by code that does nothing else.

* `Program`, `Code`: what handlers and hosts may do.
* `Code.meaning`: what code does that may call the parser inside itself so often.
* `Code.noted`: the same code, of which every call is noted first.
* `Call.Permitted`: the entry is registered, and it is global or the channel is the home room.
* `makesOnly_run`: whatever a program does, its calls are permitted.
-/

namespace Switchboard

variable {H M N ε α β : Type}

/-! ## Programs -/

/-- A change of the rules or of the memory. -/
inductive Change (H M : Type) where
  | configure (f : Config → Config)
  | settle (f : CommandSettings → CommandSettings)
  | register (e : Entry H)
  | unregister (name : Text)
  | remember (f : M → M)

/-- Makes the change. -/
def Change.run : Change H M → Action (World H M) Failure Unit
  | configure f => World.configure f
  | settle f => World.settle f
  | register e => do
    let _ ← World.register e
  | unregister name => do
    let _ ← World.unregister name
  | remember f => Action.modify fun w => { w with memory := f w.memory }

/-- What a handler or a host does: what it does next may depend on the world that it looks at and on
what the parser answers. -/
inductive Program (H M : Type) where
  | finish (r : Except Failure CommandResult)
  | look (next : World H M → Program H M)
  | change (c : Change H M) (next : Program H M)
  | report (e : Event) (next : Program H M)
  | parse (message : Record) (extra : List Text) (next : Except Failure CommandResult → Program H M)
  | parsePiped (message : Record) (next : Except Failure CommandResult → Program H M)

/-- Runs a program, with a meaning for the handlers that the parser calls. -/
def Program.run (meaning : Meaning H M) :
    Program H M → Action (World H M) Failure CommandResult
  | finish r => Action.ofExcept r
  | look next => do
    let w ← Action.get
    (next w).run meaning
  | change c next => do
    c.run
    next.run meaning
  | report e next => do
    Action.emit e
    next.run meaning
  | parse message extra next => do
    let r ← (Switchboard.parse meaning message extra).attempt
    (next r).run meaning
  | parsePiped message next => do
    let r ← (Switchboard.parsePiped meaning message).attempt
    (next r).run meaning

/-- Runs a program for what it does to the world. -/
def Program.perform (meaning : Meaning H M) (p : Program H M) : Action (World H M) Failure Unit := do
  let _ ← p.run meaning

/-- What handlers are made of. -/
abbrev Code (H M : Type) := Entry H → Invocation → Program H M

/-- What the code does if handlers may call the parser inside themselves so often. -/
def Code.meaning (code : Code H M) : Nat → Meaning H M
  | 0 => fun _ _ => Action.fail (.plain "calls are nested too deep".toList)
  | depth + 1 => fun entry invocation => (code entry invocation).run (code.meaning depth)

/-! ## Notes beside the memory -/

/-- The change, which leaves the notes alone. -/
def Change.beside : Change H M → Change H (M × List N)
  | configure f => configure f
  | settle f => settle f
  | register e => register e
  | unregister name => unregister name
  | remember f => remember fun m => (f m.1, m.2)

/-- The program, which knows nothing of the notes. -/
def Program.beside : Program H M → Program H (M × List N)
  | finish r => finish r
  | look next => look fun w => (next (World.notebook.world w)).beside
  | change c next => change c.beside next.beside
  | report e next => report e next.beside
  | parse message extra next => parse message extra fun r => (next r).beside
  | parsePiped message next => parsePiped message fun r => (next r).beside

/-- A handler is called in a world. -/
structure Call (H M : Type) where
  entry : Entry H
  invocation : Invocation
  world : World H M

/-- The code, of which every call is noted first, with the world as it is then. -/
def Code.noted (code : Code H M) : Code H (M × List (Call H M)) := fun entry invocation =>
  .look fun w => .change
    (.remember fun m => (m.1, m.2 ++ [⟨entry, invocation, World.notebook.world w⟩]))
    (code entry invocation).beside

/-- The entry is registered under the name of the command, and if it only runs in the home room, the
message is from there: both in the world of the call. -/
structure Call.Permitted (c : Call H M) : Prop where
  registered : c.world.registry.lookup (words c.invocation.message.message).1 = some c.entry
  at_home : c.entry.global = false → c.invocation.message.channel = c.world.config.room

/-! ## Actions that make notes of one kind -/

open Notebook

/-- From a world, the second action does what the first one does, and makes notes besides that are
all of one kind. -/
def MakesOnly (P : N → Prop) (w : World H M) (a : Action (World H M) ε α)
    (a' : Action (World H (M × List N)) ε α) : Prop :=
  ∃ notes, (∀ n ∈ notes, P n) ∧ World.notebook.Makes w notes a a'

namespace MakesOnly

variable {P : N → Prop} {w : World H M} {a : Action (World H M) ε α}
  {a' : Action (World H (M × List N)) ε α}

theorem of_makes (h : World.notebook.Makes w ([] : List N) a a') : MakesOnly P w a a' :=
  ⟨[], fun _ hn => (nomatch hn), h⟩

protected theorem bind {f : α → Action (World H M) ε β}
    {f' : α → Action (World H (M × List N)) ε β} (h : MakesOnly P w a a')
    (hnext : ∀ x w', MakesOnly P w' (f x) (f' x)) : MakesOnly P w (a >>= f) (a' >>= f') := by
  obtain ⟨notes, hnotes, hmakes⟩ := h
  rcases hrun : a.run w with ⟨e | x, w', log⟩
  · exact ⟨notes, hnotes, hmakes.bind_of_error hrun⟩
  · obtain ⟨notes', hnotes', hmakes'⟩ := hnext x w'
    refine ⟨notes ++ notes', fun n hn => ?_, hmakes.bind_of_ok hrun hmakes'⟩
    exact (List.mem_append.mp hn).elim (hnotes n) (hnotes' n)

protected theorem attempt {δ : Type} (h : MakesOnly P w a a') :
    MakesOnly P w (a.attempt : Action (World H M) δ _) a'.attempt := by
  obtain ⟨notes, hnotes, hmakes⟩ := h
  exact ⟨notes, hnotes, hmakes.attempt⟩

protected theorem mapError {δ : Type} (f : ε → δ) (h : MakesOnly P w a a') :
    MakesOnly P w (a.mapError f) (a'.mapError f) := by
  obtain ⟨notes, hnotes, hmakes⟩ := h
  exact ⟨notes, hnotes, hmakes.mapError f⟩

/-- Only what an action leaves behind matters. -/
theorem congr_run {c : Action (World H M) ε α} {c' : Action (World H (M × List N)) ε α}
    (h : MakesOnly P w a a') (hrun : c.run w = a.run w)
    (hrun' : ∀ seen, c'.run (World.notebook.put w seen) = a'.run (World.notebook.put w seen)) :
    MakesOnly P w c c' := by
  obtain ⟨notes, hnotes, hmakes⟩ := h
  refine ⟨notes, hnotes, fun seen => ?_⟩
  rw [hrun', hrun]
  exact hmakes seen

end MakesOnly

theorem makes_change (c : Change H M) (w : World H M) :
    World.notebook.Makes w ([] : List N) c.run c.beside.run := by
  cases c with
  | register e =>
    have hregister : World.notebook.Makes w ([] : List N)
        (World.register e : Action (World H M) Failure _) (World.register e) := by
      refine .of_run (World.register_run e w) fun seen => ?_
      rw [World.register_run, List.append_nil]
      rfl
    exact hregister.bind_quiet (World.register_run e w) (.pure ())
  | _ =>
    intro seen
    rw [List.append_nil]
    rfl

/-! ## The parser's calls -/

/-- The handlers that the parser may call make notes of one kind. -/
def MeaningMakesOnly (P : N → Prop) (meaning : Meaning H M) (meaning' : Meaning H (M × List N)) :
    Prop :=
  ∀ entry invocation w, (⟨entry, invocation, w⟩ : Call H M).Permitted →
    MakesOnly P w (meaning entry invocation) (meaning' entry invocation)

section Parser

variable {P : N → Prop} {meaning : Meaning H M} {meaning' : Meaning H (M × List N)}

/-- **A handler is only called if that is permitted**: the message of the invocation is the body, the
name its first word, and nothing happens between the check and the call. -/
theorem permitted_of_resolve {w : World H M} {message : Record} {extra : List Text} {name : Text}
    {entry : Entry H} {invocation : Invocation}
    (h : w.resolve message extra = .call name entry invocation) :
    (⟨entry, invocation, w⟩ : Call H M).Permitted := by
  obtain ⟨rfl, hlookup, hpass, rfl⟩ := resolve_eq_call_iff.mp h
  refine ⟨hlookup, fun hglobal => ?_⟩
  obtain hyes | hhome := hpass
  · rw [hglobal] at hyes
    cases hyes
  · exact hhome

theorem makesOnly_parse (h : MeaningMakesOnly P meaning meaning') (message : Record)
    (extra : List Text) (w : World H M) :
    MakesOnly P w (parse meaning message extra) (parse meaning' message extra) := by
  have hact : MakesOnly P w ((w.resolve message extra).act meaning)
      ((w.resolve message extra).act meaning') := by
    cases hresolve : w.resolve message extra with
    | unknown name => exact .of_makes (.pure CommandResult.silent)
    | elsewhere name channel => exact .of_makes (.pure CommandResult.silent)
    | call name entry invocation =>
      exact (h entry invocation w (permitted_of_resolve hresolve)).mapError (Failure.command name)
  obtain ⟨notes, hnotes, hmakes⟩ := hact
  refine ⟨notes, hnotes, fun seen => ?_⟩
  have hresolve : (World.notebook.put w seen).resolve message extra = w.resolve message extra := rfl
  rw [parse_run, parse_run, hresolve, hmakes seen]

theorem makesOnly_continuePipe (h : MeaningMakesOnly P meaning meaning') (message : Record)
    (answer : CommandResult) (segments : List Text) (w : World H M) :
    MakesOnly P w (continuePipe meaning message answer segments)
      (continuePipe meaning' message answer segments) := by
  induction segments generalizing answer w with
  | nil => exact .of_makes (.pure answer)
  | cons segment rest ih =>
    rw [continuePipe, continuePipe]
    cases answer.threaded.extra? with
    | none => exact (MakesOnly.of_makes (.emit _)).bind fun _ _ => .of_makes (.pure CommandResult.silent)
    | some extra => exact (makesOnly_parse h _ extra w).bind fun next w' => ih next w'

theorem makesOnly_runPipe (h : MeaningMakesOnly P meaning meaning') (message : Record)
    (segments : List Text) (w : World H M) :
    MakesOnly P w (runPipe meaning message segments) (runPipe meaning' message segments) := by
  cases segments with
  | nil => exact .of_makes (.pure CommandResult.silent)
  | cons segment rest =>
    exact (makesOnly_parse h _ [] w).bind fun answer w' =>
      makesOnly_continuePipe h message answer rest w'

theorem makesOnly_parsePiped (h : MeaningMakesOnly P meaning meaning') (message : Record)
    (w : World H M) :
    MakesOnly P w (parsePiped meaning message) (parsePiped meaning' message) := by
  by_cases hpipe : (w.settings.pipes && message.message.contains '|') = true
  · refine (makesOnly_runPipe h message (segments message.message) w).congr_run ?_ fun seen => ?_
    · rw [parsePiped, Action.run_bind, Action.run_get]
      simp only [hpipe, if_true, List.nil_append]
    · have hpipe' : ((World.notebook.put w seen).settings.pipes &&
          message.message.contains '|') = true := hpipe
      rw [parsePiped, Action.run_bind, Action.run_get]
      simp only [hpipe', if_true, List.nil_append]
  · refine (makesOnly_parse h message [] w).congr_run ?_ fun seen => ?_
    · rw [parsePiped, Action.run_bind, Action.run_get]
      simp only [hpipe, List.nil_append]
      rfl
    · have hpipe' : ¬((World.notebook.put w seen).settings.pipes &&
          message.message.contains '|') = true := hpipe
      rw [parsePiped, Action.run_bind, Action.run_get]
      simp only [hpipe', List.nil_append]
      rfl

theorem makesOnly_consume (h : MeaningMakesOnly P meaning meaning') (message : Record)
    (w : World H M) : MakesOnly P w (consume meaning message) (consume meaning' message) :=
  (MakesOnly.of_makes (.emit (.consuming message))).bind fun _ w' =>
    makesOnly_parsePiped h message w'

/-- **A program makes the notes of the handlers that it has the parser call**, and no others. -/
theorem makesOnly_run (h : MeaningMakesOnly P meaning meaning') (p : Program H M) (w : World H M) :
    MakesOnly P w (p.run meaning) (p.beside.run meaning') := by
  -- changes and calls may leave any world behind, so the rest is taken from all of them
  induction p generalizing w with
  | finish r => exact .of_makes (.ofExcept r)
  | look next ih => exact (ih w w).congr_run rfl fun _ => rfl
  | change c next ih => exact (MakesOnly.of_makes (makes_change c w)).bind fun _ w' => ih w'
  | report e next ih => exact (MakesOnly.of_makes (.emit e)).bind fun _ w' => ih w'
  | parse message extra next ih =>
    exact (makesOnly_parse h message extra w).attempt.bind fun r w' => ih r w'
  | parsePiped message next ih =>
    exact (makesOnly_parsePiped h message w).attempt.bind fun r w' => ih r w'

theorem makesOnly_perform (h : MeaningMakesOnly P meaning meaning') (p : Program H M)
    (w : World H M) : MakesOnly P w (p.perform meaning) (p.beside.perform meaning') :=
  (makesOnly_run h p w).bind fun _ _ => .of_makes (.pure ())

end Parser

/-! ## Calls at all depths -/

/-- **Handlers only have permitted calls made**, at whatever depth: a call is noted where its code
starts, and the calls inside it are those of a program. -/
theorem meaningMakesOnly_noted (code : Code H M) (depth : Nat) :
    MeaningMakesOnly Call.Permitted (code.meaning depth) (code.noted.meaning depth) := by
  induction depth with
  | zero =>
    intro entry invocation w _
    exact .of_makes (.ofExcept (.error _))
  | succ depth ih =>
    intro entry invocation w hpermitted
    obtain ⟨notes, hnotes, hmakes⟩ := makesOnly_run ih (code entry invocation) w
    refine ⟨⟨entry, invocation, w⟩ :: notes, ?_, fun seen => ?_⟩
    · exact List.forall_mem_cons.mpr ⟨hpermitted, hnotes⟩
    · have hnote : (code.noted.meaning (depth + 1) entry invocation).run
          (World.notebook.put w seen) =
          ((code entry invocation).beside.run (code.noted.meaning depth)).run
            (World.notebook.put w (seen ++ [⟨entry, invocation, w⟩])) := rfl
      rw [hnote, hmakes, List.append_assoc]
      rfl

end Switchboard
