import Switchboard.Proofs.Bot.Batches
import Switchboard.Proofs.Command.Fold
import Switchboard.Proofs.Stage.Sequence
import Switchboard.Stage.Usual

/-!
# Bots that leave their world as it is

If no stage and no handler changes the world, neither does the bot, whatever fails, is held back or
is sent on the way.  Then what is sent for a record does not depend on the records before it.

* `Action.Still`: an action that leaves every world as it is.
* `still_parsePiped`: a pipe of handlers that do.
* `Bot.Still`: a bot of stages and a consumer that do.
* `Bot.deliveries`: what is sent for a record in a world, at most one message.
* `Bot.Still.process_run`: a batch sends what its records send, each in the world as it was.
-/

namespace Switchboard

variable {W H M ε δ α β γ : Type}

/-! ## Actions -/

/-- The action leaves every world as it is, also if it fails. -/
def Action.Still (a : Action W ε α) : Prop := ∀ w, (a.run w).world = w

namespace Action.Still

variable {a : Action W ε α}

protected theorem pure (x : α) : (pure x : Action W ε α).Still := fun _ => rfl

protected theorem get : (get : Action W ε W).Still := fun _ => rfl

protected theorem emit (e : Event) : (emit e : Action W ε Unit).Still := fun _ => rfl

protected theorem ofExcept (r : Except ε α) : (ofExcept r : Action W ε α).Still := by
  intro w
  rw [run_ofExcept]

protected theorem bind {f : α → Action W ε β} (h : a.Still) (hnext : ∀ x, (f x).Still) :
    (a >>= f).Still := by
  intro w
  have hw : (a.run w).world = w := h w
  rcases hrun : a.run w with ⟨e | x, w', log⟩
  · rw [hrun] at hw
    rw [run_bind_of_error hrun]
    exact hw
  · rw [hrun] at hw
    rw [run_bind_of_ok hrun]
    exact (hnext x w').trans hw

protected theorem mapError (f : ε → δ) (h : a.Still) : (a.mapError f).Still := h

protected theorem attempt (h : a.Still) : (a.attempt : Action W δ (Except ε α)).Still := h

end Action.Still

/-! ## Stages -/

/-- The stage leaves every world as it is, whatever its input. -/
def Stage.Still (f : Stage W α β) : Prop := ∀ x, (f x).Still

namespace Stage.Still

protected theorem identity : (identity : Stage W α α).Still := fun x => .pure (some x)

protected theorem andThen {first : Stage W α β} {second : Stage W β γ} (h : first.Still)
    (h' : second.Still) : (first.andThen second).Still := by
  intro x
  apply (h x).bind
  intro result
  cases result with
  | none => exact .pure none
  | some y => exact h' y

protected theorem guardedBy {outer : Stage W α γ} {guard : Stage W α β} (h : guard.Still)
    (h' : outer.Still) : (outer.guardedBy guard).Still := by
  intro x
  apply (h x).bind
  intro result
  cases result with
  | none => exact .pure none
  | some y => exact h' x

protected theorem logged {f : Stage W α β} (name : Text) (h : f.Still) :
    (f.logged name).Still := by
  intro x
  apply (h x).attempt.bind
  intro verdict
  exact (Action.Still.emit _).bind fun _ => .ofExcept verdict

theorem linkFrom {pick : α → α → α} {first : Stage W α α} {stages : List (Stage W α α)}
    (h : first.Still) (hstages : ∀ f ∈ stages, f.Still) : (linkFrom pick first stages).Still := by
  induction stages generalizing first with
  | nil => exact h
  | cons f rest ih =>
    have hlink : (link pick first f).Still := by
      intro x
      apply (h x).bind
      intro result
      cases result with
      | none => exact .pure none
      | some y => exact hstages f List.mem_cons_self (pick x y)
    exact ih hlink fun g hg => hstages g (List.mem_cons_of_mem f hg)

/-- Chains and composites of such stages leave the world as it is. -/
theorem linkAll {pick : α → α → α} {stages : List (Stage W α α)}
    (hstages : ∀ f ∈ stages, f.Still) : (linkAll pick stages).Still :=
  .linkFrom .identity hstages

end Stage.Still

/-- The usual stages look at the world and do not change it. -/
theorem still_usualTransformers :
    ∀ f ∈ (Stage.usualTransformers : List (Stage (World H M) Record Record)), f.Still := by
  intro f hf
  obtain rfl := List.mem_singleton.mp hf
  apply Stage.Still.logged
  intro record
  exact (Action.Still.ofExcept _).bind fun text => .pure _

theorem still_usualFilters :
    ∀ f ∈ (Stage.usualFilters : List (Stage (World H M) Record Record)), f.Still := by
  intro f hf
  obtain rfl | hf := List.mem_cons.mp hf
  · exact .logged _ fun record => Action.Still.get.bind fun world => .pure _
  · obtain rfl := List.mem_singleton.mp hf
    exact .logged _ fun record => Action.Still.get.bind fun world => .pure _

/-! ## Commands -/

/-- No handler changes the world. -/
def MeaningStill (meaning : Meaning H M) : Prop :=
  ∀ entry invocation, (meaning entry invocation).Still

section Parser

variable {meaning : Meaning H M} (h : MeaningStill meaning)

include h

theorem still_parse (message : Record) (extra : List Text) :
    (parse meaning message extra).Still := by
  intro w
  rw [parse_run]
  cases w.resolve message extra with
  | unknown name => rfl
  | elsewhere name channel => rfl
  | call name entry invocation => exact h entry invocation w

theorem still_continuePipe (message : Record) (answer : CommandResult) (segments : List Text) :
    (continuePipe meaning message answer segments).Still := by
  induction segments generalizing answer with
  | nil => exact .pure answer
  | cons segment rest ih =>
    rw [continuePipe]
    cases answer.threaded.extra? with
    | none => exact (Action.Still.emit _).bind fun _ => .pure _
    | some extra => exact (still_parse h _ extra).bind ih

theorem still_parsePiped (message : Record) : (parsePiped meaning message).Still := by
  have hpipe : ∀ segments, (runPipe meaning message segments).Still := by
    intro segments
    cases segments with
    | nil => exact .pure _
    | cons segment rest =>
      exact (still_parse h _ []).bind fun answer => still_continuePipe h message answer rest
  apply Action.Still.get.bind
  intro world
  split
  · exact hpipe _
  · exact still_parse h message []

theorem still_consume (message : Record) : (consume meaning message).Still :=
  (Action.Still.emit _).bind fun _ => still_parsePiped h message

end Parser

/-! ## Bots -/

/-- No part of the bot changes the world. -/
structure Bot.Still (bot : Bot H M) : Prop where
  transformers : ∀ f ∈ bot.transformers, f.Still
  filters : ∀ f ∈ bot.filters, f.Still
  consumer : ∀ record, (bot.consumer record).Still

namespace Bot

/-- The bot with the usual stages and handlers that do not change the world. -/
theorem still_build {meaning : Meaning H M} (h : MeaningStill meaning) (name : Text) :
    (build meaning { name }).Still where
  transformers := still_usualTransformers
  filters := still_usualFilters
  consumer := still_consume h

/-- What is sent for a record that arrives in a world. -/
def deliveries (bot : Bot H M) (w : World H M) (record : Record) : List Delivery :=
  match (bot.answer record).run w with
  | ⟨.ok (some answer), w', _⟩ => (answer.delivery? w'.config).toList
  | _ => []

theorem length_deliveries_le_one (bot : Bot H M) (w : World H M) (record : Record) :
    (bot.deliveries w record).length ≤ 1 := by
  rw [deliveries]
  split
  · exact Option.length_toList_le
  · exact Nat.zero_le 1

theorem withSent_append (s : BotState H M) (first second : List Delivery) :
    s.withSent (first ++ second) = (s.withSent first).withSent second := by
  simp only [BotState.withSent, List.append_assoc]

namespace Still

variable {bot : Bot H M} (h : bot.Still)

include h

theorem accept : bot.accept.Still :=
  .andThen (.linkAll h.transformers) (.guardedBy (.linkAll h.filters) .identity)

theorem answer (record : Record) : (bot.answer record).Still := by
  apply ((h.accept record).mapError _).bind
  intro accepted
  cases accepted with
  | none => exact .pure none
  | some normalized =>
    exact ((h.consumer normalized).mapError _).bind fun answer => .pure (some answer)

/-- Of a record nothing stays but what is sent for it. -/
theorem world_processOne (record : Record) (s : BotState H M) :
    ((bot.processOne record).run s).world = s.withSent (bot.deliveries s.world record) := by
  have hworld : ((bot.answer record).run s.world).world = s.world := h.answer record s.world
  rw [processOne_run, deliveries]
  rcases hrun : (bot.answer record).run s.world with ⟨e | _ | answer, w, log⟩ <;>
    rw [hrun] at hworld <;> cases hworld
  · exact (BotState.withSent_nil s).symm
  · exact (BotState.withSent_nil s).symm
  · rfl

theorem state_foldl_handleNext (records : List Record) (shift : Shift H M) :
    (records.foldl bot.handleNext shift).state =
      shift.state.withSent (records.flatMap (bot.deliveries shift.state.world)) := by
  induction records generalizing shift with
  | nil => exact (BotState.withSent_nil shift.state).symm
  | cons record rest ih =>
    have hnext : (bot.handleNext shift record).state =
        shift.state.withSent (bot.deliveries shift.state.world record) :=
      h.world_processOne record shift.state
    rw [List.foldl_cons, ih, hnext, List.flatMap_cons, withSent_append]
    rfl

/-- **A batch succeeds and sends what its records send**, each of them in the world as it was before
the batch; nothing else changes. -/
theorem process_run (batch : List Record) (s : BotState H M) :
    ∃ log, (bot.process batch : Action (BotState H M) ε Unit).run s =
      ⟨.ok (), s.withSent (batch.flatMap (bot.deliveries s.world)), log⟩ := by
  obtain ⟨log, hrun, -, -⟩ := (leads_processAll (ε := ε) bot { state := s } batch).within
    { bot := bot.name, size := batch.length }
  rw [h.state_foldl_handleNext] at hrun
  exact ⟨log, hrun⟩

end Still

end Bot

end Switchboard
