import Switchboard.Proofs.Bot.Host
import Switchboard.Proofs.Command.Program

/-!
# Home-room commands stay at home

A command that is not global runs in the home room only: whatever a host, the handlers and the parser
inside them change on the way, the room is checked against the configuration of the very moment.

* `Bot.ofPrograms`: a bot whose handlers and consumer are programs.
* `Bot.notingCalls`: the same bot, of which every call of a handler is noted.
* `World.Refuses`: the world does not let a message run its command.
* `Bot.permitted_work`: in every run, all calls are permitted, and what is refused is silent.
-/

namespace Switchboard

variable {H M N ε : Type}

open Stage Notebook

/-- The command of a message only runs in the home room, and the message is from elsewhere. -/
def World.Refuses (w : World H M) (message : Record) : Prop :=
  ∃ entry, w.registry.lookup (words (w.body message.message)).1 = some entry ∧
    entry.global = false ∧ message.channel ≠ w.config.room

/-- The report of a message that is refused. -/
def World.refusal (w : World H M) (message : Record) : LogEntry :=
  ⟨.homeRoomOnly (words (w.body message.message)).1 message.channel, none⟩

theorem resolve_of_refuses {w : World H M} {message : Record} (h : w.Refuses message)
    (extra : List Text) : w.resolve message extra =
      .elsewhere (words (w.body message.message)).1 message.channel := by
  obtain ⟨entry, hlookup, hglobal, hroom⟩ := h
  exact resolve_of_elsewhere rfl hlookup hglobal hroom

/-- A refused message runs no handler, changes nothing and is silent. -/
theorem parse_run_of_refuses (meaning : Meaning H M) {w : World H M} {message : Record}
    (h : w.Refuses message) (extra : List Text) :
    (parse meaning message extra).run w = ⟨.ok .silent, w, [w.refusal message]⟩ := by
  rw [parse_run, resolve_of_refuses h]
  rfl

/-- The pipe behind a segment that is refused. -/
def PipeState.refused (message : Record) (s : PipeState H M) (segment : Text) : PipeState H M where
  progress := .answered .silent
  world := s.world
  log := s.log ++ [s.world.refusal (message.withMessage segment)]

/-- A refused segment runs no handler, changes nothing and is silent, and its pipe goes on. -/
theorem step_of_refuses (meaning : Meaning H M) {message : Record} {s : PipeState H M}
    {segment : Text} {extra : List Text} (hextra : s.progress.extra? = some extra)
    (h : s.world.Refuses (message.withMessage segment)) :
    s.step meaning message segment = s.refused message segment := by
  rw [PipeState.step_of_some hextra, PipeState.advance, resolve_of_refuses h]
  rfl

namespace Bot

/-! ## Bots whose calls are noted -/

/-- The bot of some choices, whose handlers are programs, and the consumer too if it is not the
command parser. -/
def ofPrograms (code : Code H M) (depth : Nat) (o : Options H M)
    (consumer : Option (Record → Program H M)) : Bot H M :=
  build (code.meaning depth)
    { o with consumer := consumer.map fun p record => (p record).run (code.meaning depth) }

/-- The same bot, of which every call of a handler is noted. -/
def notingCalls (code : Code H M) (depth : Nat) (o : Options H M)
    (consumer : Option (Record → Program H M)) : Bot H (M × List (Call H M)) where
  name := o.name
  transformers := (ofPrograms code depth o consumer).transformers.map fun f record =>
    World.notebook.quietly (f record)
  filters := (ofPrograms code depth o consumer).filters.map fun f record =>
    World.notebook.quietly (f record)
  consumer := match consumer with
    | none => consume (code.noted.meaning depth)
    | some p => fun record => (p record).beside.run (code.noted.meaning depth)

theorem makes_inTurn_quietly {W W' α : Type} {b : Notebook W N W'} (pick : α → α)
    (stages : List (Stage W α α)) (y : α) (w : W) :
    b.Makes w [] (inTurn pick stages y)
      (inTurn pick (stages.map fun f y => b.quietly (f y)) y) := by
  induction stages generalizing y w with
  | nil => exact .pure (some y)
  | cons f rest ih =>
    have hquiet : b.Makes w [] (f (pick y)) (b.quietly (f (pick y))) := makes_quietly _
    obtain hstops | ⟨z, w', log, hrun⟩ := stops_or_yields ((f (pick y)).run w)
    · exact hquiet.onward_of_stops _ _ hstops
    · exact hquiet.onward hrun (ih z w')

section Calls

variable (code : Code H M) (depth : Nat) (o : Options H M)
  (consumer : Option (Record → Program H M))

theorem makes_transform_notingCalls (record : Record) (w : World H M) :
    World.notebook.Makes w [] ((ofPrograms code depth o consumer).transform record)
      ((notingCalls code depth o consumer).transform record) := by
  have hplain := linkAll_eq_inTurn (fun _ y => y) (ofPrograms code depth o consumer).transformers
    record
  have hnoting := linkAll_eq_inTurn (fun _ y => y)
    (notingCalls code depth o consumer).transformers record
  rw [transform, transform, chainAll_eq_linkAll, chainAll_eq_linkAll, hplain, hnoting]
  exact makes_inTurn_quietly _ _ record w

theorem makes_filter_notingCalls (record : Record) (w : World H M) :
    World.notebook.Makes w [] ((ofPrograms code depth o consumer).filter record)
      ((notingCalls code depth o consumer).filter record) := by
  have hplain := linkAll_eq_inTurn (fun x _ => x) (ofPrograms code depth o consumer).filters record
  have hnoting := linkAll_eq_inTurn (fun x _ => x) (notingCalls code depth o consumer).filters
    record
  rw [filter, filter, composeAll_eq_linkAll, composeAll_eq_linkAll, hplain, hnoting]
  exact makes_inTurn_quietly _ _ record w

theorem makesOnly_consumer (record : Record) (w : World H M) :
    MakesOnly Call.Permitted w ((ofPrograms code depth o consumer).consumer record)
      ((notingCalls code depth o consumer).consumer record) := by
  cases consumer with
  | none => exact makesOnly_consume (meaningMakesOnly_noted code depth) record w
  | some p => exact makesOnly_run (meaningMakesOnly_noted code depth) (p record) w

/-- Of a record, only permitted calls are noted. -/
theorem notesRecords_notingCalls {A : Type} :
    NotesRecords (A := A) (fun _ calls => ∀ c ∈ calls, c.Permitted)
      (ofPrograms code depth o consumer) (notingCalls code depth o consumer) := by
  intro r s
  obtain ⟨calls, hcalls⟩ := Classical.skolem.mp fun r =>
    Classical.skolem.mp (makesOnly_consumer code depth o consumer r)
  refine ⟨_, ?_, makes_processOne (makes_transform_notingCalls code depth o consumer)
    (makes_filter_notingCalls code depth o consumer) (fun r w => (hcalls r w).2) r s⟩
  refine forall_mem_recordNotes ?_ ?_ (fun r w => (hcalls r w).1) r s.world
  · exact fun _ _ _ hc => nomatch hc
  · exact fun _ _ _ hc => nomatch hc

/-- **A command that only runs in the home room never runs elsewhere.**  In every run of a host, whose
programs and handlers change the configuration, the settings and the registry and call the parser as
they like, every call of a handler is permitted in the world of the call: the entry is registered
under the name, and it is global or the channel is the home room.  And what is refused runs no
handler, changes nothing and is silent, as a message and as a segment of a pipe. -/
theorem permitted_work (s : BotState H M) (steps : List (HostStep (Program H M))) :
    (∃ calls, (∀ c ∈ calls, c.Permitted) ∧
      BotState.notebook.Makes s calls
        ((ofPrograms code depth o consumer).work
          (steps.map (.map (Program.perform (code.meaning depth)))) : Action (BotState H M) ε Unit)
        ((notingCalls code depth o consumer).work
          (steps.map (.map fun p => p.beside.perform (code.noted.meaning depth))))) ∧
    (∀ (meaning : Meaning H M) (w : World H M) (message : Record) (extra : List Text),
      w.Refuses message →
      (parse meaning message extra).run w = ⟨.ok .silent, w, [w.refusal message]⟩) ∧
    (∀ (meaning : Meaning H M) (pipe : PipeState H M) (message : Record) (segment : Text)
        (extra : List Text), pipe.progress.extra? = some extra →
      pipe.world.Refuses (message.withMessage segment) →
      pipe.step meaning message segment = pipe.refused message segment) := by
  have hact : NotesActs (fun _ calls => ∀ c ∈ calls, c.Permitted)
      (Program.perform (code.meaning depth))
      fun p => p.beside.perform (code.noted.meaning depth) :=
    fun p w => makesOnly_perform (meaningMakesOnly_noted code depth) p w
  refine ⟨?_, fun meaning w message extra h => parse_run_of_refuses meaning h extra,
    fun meaning pipe message segment extra hextra h => step_of_refuses meaning hextra h⟩
  obtain ⟨calls, hcalls, hmakes⟩ := makes_work (ε := ε) rfl hact
    (notesRecords_notingCalls code depth o consumer) steps s
  exact ⟨calls, hcalls.forall_mem fun _ _ h => h, hmakes⟩

end Calls

/-- Makes its first argument the home room and hands the others to the parser. -/
def moveHome : Code Unit Unit := fun _ invocation =>
  match invocation.args with
  | [] => .finish (.ok .silent)
  | room :: rest =>
    .change (.configure fun c => { c with room })
      (.parsePiped (invocation.message.withMessage (Text.joinWith [' '] rest)) .finish)

/-- A world in which `go` only runs at home. -/
def homely : World Unit Unit where
  registry := (Registry.empty.register { name := "go".toList, handler := (), global := false }).2
  memory := ()

theorem permitted_work_elsewhere :
    homely.Refuses { channel := "elsewhere".toList, message := "!go there".toList } ∧
      (parse (moveHome.meaning 3) { channel := "elsewhere".toList, message := "!go there".toList }
        []).run homely =
        ⟨.ok .silent, homely, [⟨.homeRoomOnly "go".toList "elsewhere".toList, none⟩]⟩ := by
  have hrefuses : homely.Refuses
      { channel := "elsewhere".toList, message := "!go there".toList } :=
    ⟨{ name := "go".toList, handler := (), global := false }, by decide +kernel, rfl, by decide⟩
  refine ⟨hrefuses, ?_⟩
  have hsilent := (permitted_work (ε := Empty) moveHome 3 { usualStages := false } none
    { world := homely } []).2.1 (moveHome.meaning 3) homely _ [] hrefuses
  have hname : (words (homely.body "!go there".toList)).1 = "go".toList := by decide +kernel
  rw [World.refusal, hname] at hsilent
  exact hsilent

/-- The second call comes from what is no longer the home room. -/
example : (BotState.notebook.notes (Action.run (ε := Empty)
    ((notingCalls moveHome 3 { usualStages := false } none).work
      [.act (Program.perform (moveHome.noted.meaning 3)
        (.change (.register { name := "go".toList, handler := (), global := false })
          (.finish (.ok .silent)))),
       .batch [saying "!go there go back"]])
    (BotState.notebook.put { world := { memory := () } } [])).world).map
      (fun call => call.invocation.args) = [["there".toList, "go".toList, "back".toList]] := by
  decide +kernel

end Bot

end Switchboard
