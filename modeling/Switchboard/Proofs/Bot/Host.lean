import Switchboard.Proofs.Bot.Batches
import Switchboard.Proofs.Stage.Notes

/-!
# Hosts

A host has a bot work on records, and in between does as it likes with the bot's world.  Two bots of
which one does what the other does and makes notes besides can be put in each other's place for as
long as a host works.

* `Bot.work`: a run of a host.
* `Blocks`: the notes of tasks one after the other.
* `Bot.makes_work`: the notes of a run are those of its tasks.
-/

namespace Switchboard

variable {H M N ε A B T : Type}

/-! ## Runs of a host -/

/-- What a host does next. -/
inductive HostStep (A : Type) where
  /-- Something on the bot's world. -/
  | act (a : A)
  | connect
  /-- One record that is not part of a batch. -/
  | record (r : Record)
  | batch (rs : List Record)

/-- One thing to do. -/
inductive Task (A : Type) where
  | act (a : A)
  | record (r : Record)

/-- The record of a task, if it is about one. -/
def Task.record? : Task A → Option Record
  | act _ => none
  | record r => some r

namespace HostStep

/-- The step with what it does on the world in another form. -/
def map (f : A → B) : HostStep A → HostStep B
  | act a => act (f a)
  | connect => connect
  | record r => record r
  | batch rs => batch rs

theorem map_id : (map id : HostStep A → HostStep A) = id := by
  funext step
  cases step <;> rfl

/-- What is to do on the world and with records. -/
def tasks : HostStep A → List (Task A)
  | act a => [.act a]
  | connect => []
  | record r => [.record r]
  | batch rs => rs.map .record

end HostStep

namespace Bot

/-- One step of a host, which goes on whatever comes of it. -/
def hostStep (bot : Bot H M) :
    HostStep (Action (World H M) Failure Unit) → Action (BotState H M) ε Unit
  | .act a => do
    let _ ← (onWorld a).attempt
  | .connect => do
    let _ ← bot.init.attempt
  | .record r => do
    let _ ← (bot.processOne r).attempt
  | .batch rs => bot.process rs

/-- The steps of a host in order. -/
def work (bot : Bot H M) :
    List (HostStep (Action (World H M) Failure Unit)) → Action (BotState H M) ε Unit
  | [] => return ()
  | step :: steps => do
    bot.hostStep step
    bot.work steps

end Bot

/-! ## Notes in blocks -/

/-- Notes that are those of some tasks, one after the other. -/
inductive Blocks (Q : T → List N → Prop) : List T → List N → Prop
  | nil : Blocks Q [] []
  | cons {t : T} {ts : List T} {notes notes' : List N} (h : Q t notes) (hrest : Blocks Q ts notes') :
      Blocks Q (t :: ts) (notes ++ notes')

namespace Blocks

variable {Q : T → List N → Prop} {ts us : List T} {notes notes' : List N}

protected theorem single {t : T} (h : Q t notes) : Blocks Q [t] notes := by
  have hcons := Blocks.cons h .nil
  rw [List.append_nil] at hcons
  exact hcons

protected theorem append (h : Blocks Q ts notes) (h' : Blocks Q us notes') :
    Blocks Q (ts ++ us) (notes ++ notes') := by
  induction h with
  | nil => exact h'
  | cons ht _ ih =>
    rw [List.append_assoc]
    exact .cons ht ih

/-- What holds of the notes of every task holds of all. -/
theorem forall_mem {P : N → Prop} (hQ : ∀ t notes, Q t notes → ∀ n ∈ notes, P n)
    (h : Blocks Q ts notes) : ∀ n ∈ notes, P n := by
  induction h with
  | nil => exact fun _ hn => nomatch hn
  | cons ht _ ih =>
    intro n hn
    obtain hn | hn := List.mem_append.mp hn
    · exact hQ _ _ ht n hn
    · exact ih n hn

end Blocks

/-! ## Bots that make notes -/

namespace Bot

theorem makes_onWorld {s : BotState H M} {notes : List N} {α : Type}
    {a : Action (World H M) ε α} {a' : Action (World H (M × List N)) ε α}
    (h : World.notebook.Makes s.world notes a a') :
    BotState.notebook.Makes s notes (onWorld a) (onWorld a') := by
  intro seen
  have hworld : (BotState.notebook.put s seen).world = World.notebook.put s.world seen := rfl
  rw [onWorld, onWorld, Action.run_zoom, Action.run_zoom, hworld, h seen]
  rfl

variable {bot : Bot H M} {bot' : Bot H (M × List N)}

theorem makes_init (hname : bot'.name = bot.name) (s : BotState H M) :
    BotState.notebook.Makes s ([] : List N) bot.init bot'.init := by
  cases hrefusal : s.transport.refusal with
  | none =>
    refine .of_run (bot.init_run_of_none hrefusal) fun seen => ?_
    rw [bot'.init_run_of_none (s := BotState.notebook.put s seen) hrefusal, List.append_nil,
      connectingEvent, hname]
    rfl
  | some reason =>
    refine .of_run (bot.init_run_of_some hrefusal) fun seen => ?_
    rw [bot'.init_run_of_some (s := BotState.notebook.put s seen) hrefusal, List.append_nil,
      connectingEvent, hname]
    rfl

theorem makes_deliver (answer : CommandResult) (s : BotState H M) :
    BotState.notebook.Makes s ([] : List N) (deliver answer : Action (BotState H M) ε Unit)
      (deliver answer) := by
  refine .of_run (deliver_run answer s) fun seen => ?_
  rw [deliver_run, List.append_nil]
  rfl

/-- The notes of the filters, and those of the consumer if they let the record pass. -/
def laterNotes (bot : Bot H M) (filterNotes consumerNotes : Record → World H M → List N)
    (normalized : Record) (w : World H M) : List N :=
  filterNotes normalized w ++
    match (bot.filter normalized).run w with
    | ⟨.ok (some _), w', _⟩ => consumerNotes normalized w'
    | _ => []

/-- The notes of the transformers, and those behind them if they yield a record. -/
def recordNotes (bot : Bot H M)
    (transformerNotes filterNotes consumerNotes : Record → World H M → List N) (r : Record)
    (w : World H M) : List N :=
  transformerNotes r w ++
    match (bot.transform r).run w with
    | ⟨.ok (some normalized), w', _⟩ => bot.laterNotes filterNotes consumerNotes normalized w'
    | _ => []

theorem forall_mem_recordNotes {P : N → Prop}
    {transformerNotes filterNotes consumerNotes : Record → World H M → List N}
    (htransformer : ∀ r w, ∀ n ∈ transformerNotes r w, P n)
    (hfilter : ∀ r w, ∀ n ∈ filterNotes r w, P n)
    (hconsumer : ∀ r w, ∀ n ∈ consumerNotes r w, P n) (r : Record) (w : World H M) :
    ∀ n ∈ bot.recordNotes transformerNotes filterNotes consumerNotes r w, P n := by
  intro n hn
  rw [recordNotes] at hn
  obtain hn | hn := List.mem_append.mp hn
  · exact htransformer r w n hn
  · split at hn
    · rw [laterNotes] at hn
      obtain hn | hn := List.mem_append.mp hn
      · exact hfilter _ _ n hn
      · split at hn
        · exact hconsumer _ _ n hn
        · cases hn
    · cases hn

/-- **What is noted of a record is what the parts of the bot note that it reaches.** -/
theorem makes_processOne {transformerNotes filterNotes consumerNotes : Record → World H M → List N}
    (htransform : ∀ r w, World.notebook.Makes w (transformerNotes r w) (bot.transform r)
      (bot'.transform r))
    (hfilter : ∀ r w, World.notebook.Makes w (filterNotes r w) (bot.filter r) (bot'.filter r))
    (hconsumer : ∀ r w, World.notebook.Makes w (consumerNotes r w) (bot.consumer r)
      (bot'.consumer r)) (r : Record) (s : BotState H M) :
    BotState.notebook.Makes s
      (bot.recordNotes transformerNotes filterNotes consumerNotes r s.world) (bot.processOne r)
      (bot'.processOne r) := by
  -- each part goes on in the world that the one before it leaves behind, if that yields a record
  have htransform := (makes_onWorld (htransform r s.world)).mapError BotError.stage
  rw [recordNotes]
  rcases hrun : (bot.transform r).run s.world with ⟨e | _ | normalized, w, log⟩
  · have herror := Action.run_mapError_of_error BotError.stage (onWorld_run hrun)
    simp only [List.append_nil]
    exact htransform.bind_of_error herror
  · have hnone := Action.run_mapError_of_ok BotError.stage (onWorld_run hrun)
    exact htransform.bind_of_ok hnone (.pure ())
  · have hsome := Action.run_mapError_of_ok BotError.stage (onWorld_run hrun)
    refine htransform.bind_of_ok hsome ?_
    have hfilter := (makes_onWorld (s := { s with world := w })
      (hfilter normalized w)).mapError BotError.stage
    simp only [laterNotes]
    rcases hrun' : (bot.filter normalized).run w with ⟨e | _ | out, w', log'⟩
    · have herror := Action.run_mapError_of_error BotError.stage
        (onWorld_run (s := { s with world := w }) hrun')
      simp only [List.append_nil]
      exact hfilter.bind_of_error herror
    · have hnone := Action.run_mapError_of_ok BotError.stage
        (onWorld_run (s := { s with world := w }) hrun')
      exact hfilter.bind_of_ok hnone (.pure ())
    · have hsome' := Action.run_mapError_of_ok BotError.stage
        (onWorld_run (s := { s with world := w }) hrun')
      refine hfilter.bind_of_ok hsome' ?_
      have hconsumer := (makes_onWorld (s := { s with world := w' })
        (hconsumer normalized w')).mapError BotError.consumer
      rcases hrun'' : (bot.consumer normalized).run w' with ⟨e | answer, w'', log''⟩
      · exact hconsumer.bind_of_error (Action.run_mapError_of_error BotError.consumer
          (onWorld_run (s := { s with world := w' }) hrun''))
      · exact hconsumer.bind_quiet (Action.run_mapError_of_ok BotError.consumer
          (onWorld_run (s := { s with world := w' }) hrun'')) (makes_deliver answer _)

theorem makes_attempt {s : BotState H M} {notes : List N} {δ α : Type}
    {a : Action (BotState H M) ε α} {a' : Action (BotState H (M × List N)) ε α}
    (h : BotState.notebook.Makes s notes a a') :
    BotState.notebook.Makes s notes (do let _ ← a.attempt : Action (BotState H M) δ Unit)
      (do let _ ← a'.attempt) := by
  exact h.attempt.bind_quiet (Action.run_attempt a s) (.pure ())

theorem makes_processOrDrop {s : BotState H M} {notes : List N} {r : Record}
    (h : BotState.notebook.Makes s notes (bot.processOne r) (bot'.processOne r)) :
    BotState.notebook.Makes s notes (bot.processOrDrop r : Action (BotState H M) ε Unit)
      (bot'.processOrDrop r) := by
  have hrun := Action.run_attempt (δ := ε) (bot.processOne r) s
  rcases hone : (bot.processOne r).run s with ⟨e | ⟨⟩, s', log⟩ <;> rw [hone] at hrun
  · exact h.attempt.bind_quiet hrun (.emit (.dropped e))
  · exact h.attempt.bind_quiet hrun (.pure ())

/-! ## The notes of a run -/

/-- Whatever becomes of a step, the host goes on. -/
theorem hostStep_run (bot : Bot H M) (step : HostStep (Action (World H M) Failure Unit))
    (s : BotState H M) :
    ∃ s' log, (bot.hostStep step : Action (BotState H M) ε Unit).run s = ⟨.ok (), s', log⟩ := by
  cases step with
  | act a => exact ⟨_, _, rfl⟩
  | connect => exact ⟨_, _, rfl⟩
  | record r => exact ⟨_, _, rfl⟩
  | batch rs =>
    obtain ⟨log, hrun, -, -⟩ := bot.leads_processAll (ε := ε) { state := s } rs
    exact ⟨_, _, by rw [hostStep, process, Action.run_within, hrun]⟩

section Work

variable {Q : Task A → List N → Prop} {plain : A → Action (World H M) Failure Unit}
  {noted : A → Action (World H (M × List N)) Failure Unit}

/-- Whatever a host does on the world makes notes that are fit for it. -/
def NotesActs (Q : Task A → List N → Prop) (plain : A → Action (World H M) Failure Unit)
    (noted : A → Action (World H (M × List N)) Failure Unit) : Prop :=
  ∀ a w, ∃ notes, Q (.act a) notes ∧ World.notebook.Makes w notes (plain a) (noted a)

/-- Every record makes notes that are fit for it. -/
def NotesRecords (Q : Task A → List N → Prop) (bot : Bot H M) (bot' : Bot H (M × List N)) : Prop :=
  ∀ r s, ∃ notes, Q (.record r) notes ∧
    BotState.notebook.Makes s notes (bot.processOne r) (bot'.processOne r)

theorem makes_processAll (hrecord : NotesRecords Q bot bot') (rs : List Record)
    (s : BotState H M) : ∃ notes, Blocks Q (rs.map .record) notes ∧
      BotState.notebook.Makes s notes (bot.processAll rs : Action (BotState H M) ε Unit)
        (bot'.processAll rs) := by
  induction rs generalizing s with
  | nil => exact ⟨[], .nil, .pure ()⟩
  | cons r rest ih =>
    obtain ⟨notes, hnotes, hmakes⟩ := hrecord r s
    obtain ⟨log, hrun, -, -⟩ := bot.leads_processOrDrop (ε := ε) { state := s } r
    obtain ⟨notes', hnotes', hmakes'⟩ := ih (bot.handleNext { state := s } r).state
    exact ⟨notes ++ notes', .cons hnotes hnotes',
      (makes_processOrDrop hmakes).bind_of_ok hrun hmakes'⟩

theorem makes_hostStep (hname : bot'.name = bot.name) (hact : NotesActs Q plain noted)
    (hrecord : NotesRecords Q bot bot') (step : HostStep A) (s : BotState H M) :
    ∃ notes, Blocks Q step.tasks notes ∧
      BotState.notebook.Makes s notes
        (bot.hostStep (step.map plain) : Action (BotState H M) ε Unit)
        (bot'.hostStep (step.map noted)) := by
  cases step with
  | act a =>
    obtain ⟨notes, hnotes, hmakes⟩ := hact a s.world
    exact ⟨notes, .single hnotes, makes_attempt (makes_onWorld hmakes)⟩
  | connect => exact ⟨[], .nil, makes_attempt (makes_init hname s)⟩
  | record r =>
    obtain ⟨notes, hnotes, hmakes⟩ := hrecord r s
    exact ⟨notes, .single hnotes, makes_attempt hmakes⟩
  | batch rs =>
    obtain ⟨notes, hnotes, hmakes⟩ := makes_processAll (ε := ε) hrecord rs s
    have hbatch : (bot'.hostStep (.batch rs) : Action (BotState H (M × List N)) ε Unit) =
        (bot'.processAll rs).within { bot := bot.name, size := rs.length } := by
      rw [hostStep, process, hname]
    refine ⟨notes, hnotes, ?_⟩
    show BotState.notebook.Makes s notes (bot.process rs) (bot'.hostStep (.batch rs))
    rw [hbatch]
    exact hmakes.within _

/-- **The notes of a run are those of its tasks, one after the other.** -/
theorem makes_work (hname : bot'.name = bot.name) (hact : NotesActs Q plain noted)
    (hrecord : NotesRecords Q bot bot') (steps : List (HostStep A)) (s : BotState H M) :
    ∃ notes, Blocks Q (steps.flatMap HostStep.tasks) notes ∧
      BotState.notebook.Makes s notes
        (bot.work (steps.map (.map plain)) : Action (BotState H M) ε Unit)
        (bot'.work (steps.map (.map noted))) := by
  induction steps generalizing s with
  | nil => exact ⟨[], .nil, .pure ()⟩
  | cons step rest ih =>
    obtain ⟨notes, hnotes, hmakes⟩ := makes_hostStep (ε := ε) hname hact hrecord step s
    obtain ⟨s', log, hrun⟩ := bot.hostStep_run (ε := ε) (step.map plain) s
    obtain ⟨notes', hnotes', hmakes'⟩ := ih s'
    rw [List.flatMap_cons]
    exact ⟨notes ++ notes', hnotes.append hnotes', hmakes.bind_of_ok hrun hmakes'⟩

end Work

end Bot

end Switchboard
