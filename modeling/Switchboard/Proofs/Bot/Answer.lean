import Switchboard.Bot.Basic

/-!
# Answering and sending

A record is handled in two phases.  First the stages and the consumer work on the world and come to
an answer, if the record reaches the consumer; then the answer is delivered, which only concerns the
transport.

* `Bot.accept`, `Bot.answer`: the first phase.
* `Bot.processOne_eq`: the two phases.
* `CommandResult.delivery?`: what is sent for an answer.
* `Bot.processOne_run`: what handling a record leaves behind.
-/

namespace Switchboard

variable {H M ε δ α β : Type}

/-! ## Delivering -/

/-- What is sent for an answer under a configuration: a reply goes home, a redirected text to its
channel, and nothing else goes anywhere.  The home room is that of the configuration either way. -/
def CommandResult.delivery? (config : Config) : CommandResult → Option Delivery
  | .reply text => some
    { message := { message := text, channel := config.room, global := config.global,
                   showBadge := true }
      home := config.room }
  | .redirect text channel => some
    { message := { message := text, channel := channel, global := config.global,
                   showBadge := true }
      home := config.room }
  | .silent | .data _ => none

/-- What is reported when an answer is delivered. -/
def CommandResult.deliveryEvents (config : Config) : CommandResult → List Event
  | .data value => [.dataKept value]
  | answer => (answer.delivery? config).toList.map fun d => .sending d.message

/-- The state in which more has been sent. -/
def BotState.withSent (s : BotState H M) (deliveries : List Delivery) : BotState H M :=
  { s with transport := { s.transport with sent := s.transport.sent ++ deliveries } }

@[simp] theorem BotState.withSent_nil (s : BotState H M) : s.withSent [] = s := by
  rw [withSent, List.append_nil]

/-- Delivering an answer sends what there is to send, and leaves the world as it is. -/
theorem deliver_run (answer : CommandResult) (s : BotState H M) :
    (Bot.deliver answer : Action (BotState H M) ε Unit).run s =
      ⟨.ok (), s.withSent (answer.delivery? s.world.config).toList,
        (answer.deliveryEvents s.world.config).map fun e => { event := e }⟩ := by
  cases answer with
  | silent => rw [CommandResult.delivery?, Option.toList, BotState.withSent_nil]; rfl
  | reply text => rfl
  | redirect text channel => rfl
  | data value => rw [CommandResult.delivery?, Option.toList, BotState.withSent_nil]; rfl

namespace Bot

/-! ## Actions of the world -/

theorem onWorld_run {a : Action (World H M) ε α} {s : BotState H M} {outcome : Except ε α}
    {w : World H M} {log : List LogEntry} (h : a.run s.world = ⟨outcome, w, log⟩) :
    (onWorld a).run s = ⟨outcome, { s with world := w }, log⟩ := by
  rw [onWorld, Action.run_zoom, h]

theorem onWorld_pure (x : α) : (onWorld (pure x) : Action (BotState H M) ε α) = pure x := rfl

theorem onWorld_bind (a : Action (World H M) ε α) (f : α → Action (World H M) ε β) :
    onWorld (a >>= f) = onWorld a >>= fun x => onWorld (f x) := by
  apply Action.ext
  intro s
  rcases hrun : a.run s.world with ⟨e | x, w', log⟩
  · rw [onWorld_run (Action.run_bind_of_error hrun), Action.run_bind_of_error (onWorld_run hrun)]
  · rw [onWorld_run (Action.run_bind_of_ok hrun), Action.run_bind_of_ok (onWorld_run hrun)]
    rfl

theorem onWorld_mapError (f : ε → δ) (a : Action (World H M) ε α) :
    onWorld (a.mapError f) = (onWorld a).mapError f := rfl

/-! ## Answering -/

/-- All stages as one, which yields the normalized record if the filters let it pass. -/
def accept (bot : Bot H M) : Stage (World H M) Record Record :=
  bot.transform.andThen (Stage.identity.guardedBy bot.filter)

/-- What the consumer answers to a record, if the record is accepted. -/
def answer (bot : Bot H M) (record : Record) :
    Action (World H M) BotError (Option CommandResult) := do
  match ← (bot.accept record).mapError .stage with
  | none => return none
  | some normalized =>
    let answer ← (bot.consumer normalized).mapError .consumer
    return some answer

/-- Delivers what there is of an answer. -/
def deliverAny : Option CommandResult → Action (BotState H M) ε Unit
  | none => return ()
  | some answer => deliver answer

/-- **A record is answered and then the answer is delivered.** -/
theorem processOne_eq (bot : Bot H M) (record : Record) :
    bot.processOne record = onWorld (bot.answer record) >>= deliverAny := by
  rw [answer, accept, Stage.andThen, Action.mapError_bind]
  simp only [onWorld_bind, bind_assoc]
  rw [processOne, onWorld_mapError]
  congr 1
  funext transformed
  cases transformed with
  | none => rfl
  | some normalized =>
    simp only [Stage.guardedBy, Action.mapError_bind, onWorld_bind, bind_assoc]
    rw [onWorld_mapError]
    congr 1
    funext filtered
    cases filtered with
    | none => rfl
    | some out =>
      simp only [Stage.identity, Action.mapError_pure, onWorld_pure, pure_bind, onWorld_bind,
        bind_assoc]
      rfl

/-- What the stages leave behind: a failure, a record that is held back, or the transformers'
output, whatever the filters make of it. -/
theorem accept_run (bot : Bot H M) (record : Record) (w : World H M) :
    (bot.accept record).run w =
      match (bot.transform record).run w with
      | ⟨.error e, w', log⟩ => ⟨.error e, w', log⟩
      | ⟨.ok none, w', log⟩ => ⟨.ok none, w', log⟩
      | ⟨.ok (some normalized), w', log⟩ =>
        match (bot.filter normalized).run w' with
        | ⟨.error e, w'', log'⟩ => ⟨.error e, w'', log ++ log'⟩
        | ⟨.ok none, w'', log'⟩ => ⟨.ok none, w'', log ++ log'⟩
        | ⟨.ok (some _), w'', log'⟩ => ⟨.ok (some normalized), w'', log ++ log'⟩ := by
  rw [accept, Stage.andThen, Action.run_bind]
  rcases (bot.transform record).run w with ⟨e | _ | normalized, w', log⟩
  · rfl
  · simp only [Action.run_pure, List.append_nil]
  · simp only [Stage.guardedBy, Action.run_bind]
    rcases (bot.filter normalized).run w' with ⟨e | _ | out, w'', log'⟩
    · rfl
    · simp only [Action.run_pure, List.append_nil]
    · simp only [Stage.identity, Action.run_pure, List.append_nil]

/-- What answering leaves behind: a stage that fails, a record that is held back, or what the
consumer makes of the normalized record in the world that the stages leave. -/
theorem answer_run (bot : Bot H M) (record : Record) (w : World H M) :
    (bot.answer record).run w =
      match (bot.accept record).run w with
      | ⟨.error e, w', log⟩ => ⟨.error (.stage e), w', log⟩
      | ⟨.ok none, w', log⟩ => ⟨.ok none, w', log⟩
      | ⟨.ok (some normalized), w', log⟩ =>
        match (bot.consumer normalized).run w' with
        | ⟨.error e, w'', log'⟩ => ⟨.error (.consumer e), w'', log ++ log'⟩
        | ⟨.ok answer, w'', log'⟩ => ⟨.ok (some answer), w'', log ++ log'⟩ := by
  rw [answer]
  rcases haccept : (bot.accept record).run w with ⟨e | _ | normalized, w', log⟩
  · exact Action.run_bind_of_error (Action.run_mapError_of_error _ haccept)
  · rw [Action.run_bind_of_ok (Action.run_mapError_of_ok _ haccept), Action.run_pure,
      List.append_nil]
  · rw [Action.run_bind_of_ok (Action.run_mapError_of_ok _ haccept)]
    rcases hconsumer : (bot.consumer normalized).run w' with ⟨e | answer, w'', log'⟩
    · rw [Action.run_bind_of_error (Action.run_mapError_of_error _ hconsumer)]
      simp only [hconsumer]
    · rw [Action.run_bind_of_ok (Action.run_mapError_of_ok _ hconsumer), Action.run_pure,
        List.append_nil]
      simp only [hconsumer]

/-- **What handling a record leaves behind**: the world of the answer, and what there is to send for
it under the configuration of that world. -/
theorem processOne_run (bot : Bot H M) (record : Record) (s : BotState H M) :
    (bot.processOne record).run s =
      match (bot.answer record).run s.world with
      | ⟨.error e, w, log⟩ => ⟨.error e, { s with world := w }, log⟩
      | ⟨.ok none, w, log⟩ => ⟨.ok (), { s with world := w }, log⟩
      | ⟨.ok (some answer), w, log⟩ =>
        ⟨.ok (), { s with world := w }.withSent (answer.delivery? w.config).toList,
          log ++ (answer.deliveryEvents w.config).map fun e => { event := e }⟩ := by
  rw [processOne_eq]
  rcases hrun : (bot.answer record).run s.world with ⟨e | _ | answer, w, log⟩
  · exact Action.run_bind_of_error (onWorld_run hrun)
  · rw [Action.run_bind_of_ok (onWorld_run hrun), deliverAny, Action.run_pure, List.append_nil]
  · rw [Action.run_bind_of_ok (onWorld_run hrun), deliverAny, deliver_run]

end Bot

end Switchboard
