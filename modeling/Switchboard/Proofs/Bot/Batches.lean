import Switchboard.Proofs.Bot.Watch

/-!
# Batches

Where one batch ends and the next begins does not matter: a bot works through the records one after
the other, each in the state that the one before it has left, and whatever becomes of a record, the
next one has its turn.

* `Bot.oneByOne`: the records one after the other.
* `Bot.leads_run`: batches are their records one after the other.
* `Bot.comesTo_of_flatten_eq`: batches with the same records come to the same.
-/

namespace Switchboard

variable {H M ε : Type}

/-! ## Records one after the other -/

/-- A bot at work: its state, what it has reported, and what its parts have seen. -/
structure Shift (H M : Type) where
  state : BotState H M
  events : List Event := []
  seen : List Sighting := []

namespace Bot

/-- What is reported of a record that has been handled: that it is dropped, if it has failed. -/
def dropEvents : Except BotError Unit → List Event
  | .ok () => []
  | .error e => [.dropped e]

/-- The shift after one more record. -/
def handleNext (bot : Bot H M) (shift : Shift H M) (record : Record) : Shift H M :=
  let run := (bot.processOne record).run shift.state
  { state := run.world
    events := shift.events ++ (run.log.map (·.event) ++ dropEvents run.outcome)
    seen := shift.seen ++ bot.sightings record shift.state.world }

/-- Records one after the other, each in the state that the one before it has left. -/
def oneByOne (bot : Bot H M) (s : BotState H M) (records : List Record) : Shift H M :=
  records.foldl bot.handleNext { state := s }

/-- An action and the same of the watched bot succeed, and lead from one shift to another. -/
def Leads (before after : Shift H M) (a : Action (BotState H M) ε Unit)
    (a' : Action (BotState H (M × List Sighting)) ε Unit) : Prop :=
  ∃ log, a.run before.state = ⟨.ok (), after.state, log⟩ ∧
    a'.run (before.state.watching before.seen) = ⟨.ok (), after.state.watching after.seen, log⟩ ∧
    after.events = before.events ++ log.map (·.event)

namespace Leads

variable {s₁ s₂ s₃ : Shift H M} {a b : Action (BotState H M) ε Unit}
  {a' b' : Action (BotState H (M × List Sighting)) ε Unit}

protected theorem pure (shift : Shift H M) :
    Leads shift shift (pure () : Action (BotState H M) ε Unit) (pure ()) :=
  ⟨[], rfl, rfl, (List.append_nil _).symm⟩

protected theorem bind (h : Leads s₁ s₂ a a') (h' : Leads s₂ s₃ b b') :
    Leads s₁ s₃ (a >>= fun _ => b) (a' >>= fun _ => b') := by
  obtain ⟨log, hrun, hwatched, hevents⟩ := h
  obtain ⟨log', hrun', hwatched', hevents'⟩ := h'
  refine ⟨log ++ log', ?_, ?_, ?_⟩
  · rw [Action.run_bind_of_ok hrun, hrun']
  · rw [Action.run_bind_of_ok hwatched, hwatched']
  · rw [hevents', hevents, List.map_append, List.append_assoc]

protected theorem within (batch : Batch) (h : Leads s₁ s₂ a a') :
    Leads s₁ s₂ (a.within batch) (a'.within batch) := by
  obtain ⟨log, hrun, hwatched, hevents⟩ := h
  refine ⟨log.map fun e => { e with batch := some batch }, ?_, ?_, ?_⟩
  · rw [Action.run_within, hrun]
  · rw [Action.run_within, hwatched]
  · rw [hevents, List.map_map]
    rfl

end Leads

/-! ## Batches are their records -/

/-- A record that fails is dropped, and work goes on. -/
theorem leads_processOrDrop (bot : Bot H M) (shift : Shift H M) (record : Record) :
    Leads shift (bot.handleNext shift record)
      (bot.processOrDrop record : Action (BotState H M) ε Unit)
      (bot.watched.processOrDrop record) := by
  have hwatched := bot.watches_processOne record shift.state shift.seen
  rcases hrun : (bot.processOne record).run shift.state with ⟨e | ⟨⟩, s, log⟩ <;>
    rw [hrun] at hwatched
  · refine ⟨log ++ [⟨.dropped e, none⟩], ?_, ?_, ?_⟩
    · rw [processOrDrop, Action.run_bind, Action.run_attempt, hrun]
      simp only [handleNext, hrun, Action.run_emit]
    · rw [processOrDrop, Action.run_bind, Action.run_attempt, hwatched]
      simp only [handleNext, hrun, Action.run_emit]
    · simp only [handleNext, hrun, List.map_append]
      rfl
  · refine ⟨log, ?_, ?_, ?_⟩
    · rw [processOrDrop, Action.run_bind, Action.run_attempt, hrun]
      simp only [handleNext, hrun, Action.run_pure, List.append_nil]
    · rw [processOrDrop, Action.run_bind, Action.run_attempt, hwatched]
      simp only [handleNext, hrun, Action.run_pure, List.append_nil]
    · simp only [handleNext, hrun, dropEvents, List.append_nil]

theorem leads_processAll (bot : Bot H M) (shift : Shift H M) (records : List Record) :
    Leads shift (records.foldl bot.handleNext shift)
      (bot.processAll records : Action (BotState H M) ε Unit)
      (bot.watched.processAll records) := by
  induction records generalizing shift with
  | nil => exact .pure shift
  | cons record rest ih => exact (bot.leads_processOrDrop shift record).bind (ih _)

/-- **Batches are their records one after the other.** -/
theorem leads_run (bot : Bot H M) (shift : Shift H M) (batches : List (List Record)) :
    Leads shift (batches.flatten.foldl bot.handleNext shift)
      (bot.run batches : Action (BotState H M) ε Unit) (bot.watched.run batches) := by
  induction batches generalizing shift with
  | nil => exact .pure shift
  | cons batch rest ih =>
    have hbatch := (bot.leads_processAll (ε := ε) shift batch).within
      { bot := bot.name, size := batch.length }
    rw [List.flatten_cons, List.foldl_append]
    exact hbatch.bind (ih _)

/-- Every record comes to the entrance, once and in order. -/
theorem inputsOf_entrance_foldl (bot : Bot H M) (shift : Shift H M) (records : List Record) :
    inputsOf bot.entrance (records.foldl bot.handleNext shift).seen =
      inputsOf bot.entrance shift.seen ++ records := by
  induction records generalizing shift with
  | nil => exact (List.append_nil _).symm
  | cons record rest ih =>
    rw [List.foldl_cons, ih, handleNext, inputsOf_append, inputsOf_entrance_sightings,
      List.append_assoc]
    rfl

end Bot

/-! ## Connecting -/

/-- Room and credentials for connecting in a state. -/
def BotState.attempt (s : BotState H M) : Text × Option Text :=
  (s.world.config.room, s.world.config.credentials)

/-- The state with an attempt to connect on record. -/
def BotState.withAttempt (s : BotState H M) (attempt : Text × Option Text) : BotState H M :=
  { s with transport := { s.transport with connections := s.transport.connections ++ [attempt] } }

/-- The shift as it is with an attempt to connect before it, and the report of that. -/
def Shift.behind (event : Event) (attempt : Text × Option Text) (shift : Shift H M) : Shift H M :=
  { state := shift.state.withAttempt attempt, events := event :: shift.events, seen := shift.seen }

namespace Bot

/-- What is reported of an attempt to connect. -/
def connectingEvent (bot : Bot H M) (s : BotState H M) : Event :=
  .connecting bot.name s.world.config.room s.world.config.credentials.isNone

theorem init_run_of_none (bot : Bot H M) {s : BotState H M} (h : s.transport.refusal = none) :
    bot.init.run s = ⟨.ok (), s.withAttempt s.attempt, [⟨bot.connectingEvent s, none⟩]⟩ := by
  simp only [init, Action.run_bind, Action.run_get, Action.run_emit, Action.run_modifyGet,
    Action.run_mapError, Action.run_ofExcept, Transport.connect, BotState.withAttempt, h]
  rfl

theorem init_run_of_some (bot : Bot H M) {s : BotState H M} {reason : Text}
    (h : s.transport.refusal = some reason) :
    bot.init.run s = ⟨.error (.connection (.plain reason)), s.withAttempt s.attempt,
      [⟨bot.connectingEvent s, none⟩]⟩ := by
  simp only [init, Action.run_bind, Action.run_get, Action.run_emit, Action.run_modifyGet,
    Action.run_mapError, Action.run_ofExcept, Transport.connect, BotState.withAttempt, h]
  rfl

/-- Records are handled the same whether an attempt to connect is on record or not. -/
theorem processOne_run_withAttempt (bot : Bot H M) (record : Record) (s : BotState H M)
    (attempt : Text × Option Text) :
    (bot.processOne record).run (s.withAttempt attempt) =
      ⟨((bot.processOne record).run s).outcome,
        ((bot.processOne record).run s).world.withAttempt attempt,
        ((bot.processOne record).run s).log⟩ := by
  have hworld : (s.withAttempt attempt).world = s.world := rfl
  rw [processOne_run, processOne_run, hworld]
  rcases (bot.answer record).run s.world with ⟨e | _ | answer, w, log⟩ <;> rfl

theorem foldl_handleNext_behind (bot : Bot H M) (event : Event)
    (attempt : Text × Option Text) (shift : Shift H M) (records : List Record) :
    records.foldl bot.handleNext (shift.behind event attempt) =
      (records.foldl bot.handleNext shift).behind event attempt := by
  refine List.foldl_hom (Shift.behind event attempt) fun shift record => ?_
  simp only [handleNext, Shift.behind, processOne_run_withAttempt, List.cons_append]
  rfl

/-- A start that connects is a run behind the attempt. -/
theorem leads_start (bot : Bot H M) {s : BotState H M} (h : s.transport.refusal = none)
    (batches : List (List Record)) :
    Leads { state := s }
      ((bot.oneByOne s batches.flatten).behind (bot.connectingEvent s) s.attempt)
      (bot.start batches) (bot.watched.start batches) := by
  have hinit : Leads { state := s }
      (Shift.behind (bot.connectingEvent s) s.attempt { state := s }) bot.init
      bot.watched.init :=
    ⟨_, bot.init_run_of_none h, bot.watched.init_run_of_none (s := s.watching []) h, rfl⟩
  have hrun := hinit.bind (bot.leads_run _ batches)
  rw [foldl_handleNext_behind] at hrun
  exact hrun

/-- A start that does not connect is over: no part of the bot sees anything. -/
theorem start_run_of_some (bot : Bot H M) {s : BotState H M} {reason : Text}
    (h : s.transport.refusal = some reason) (batches : List (List Record)) :
    (bot.start batches).run s = ⟨.error (.connection (.plain reason)), s.withAttempt s.attempt,
      [⟨bot.connectingEvent s, none⟩]⟩ :=
  Action.run_bind_of_error (bot.init_run_of_some h)

/-! ## Any batches -/

/-- All that batches come to, by what their records come to one after the other. -/
structure ComesTo (bot : Bot H M) (s : BotState H M) (batches : List (List Record))
    (shift : Shift H M) : Prop where
  /-- A run succeeds: nothing that becomes of a record ends it. -/
  run : ∀ ε, Leads { state := s } shift (bot.run batches : Action (BotState H M) ε Unit)
    (bot.watched.run batches)
  /-- A start that connects does the same behind the attempt. -/
  start : s.transport.refusal = none →
    Leads { state := s } (shift.behind (bot.connectingEvent s) s.attempt)
      (bot.start batches) (bot.watched.start batches)
  /-- A start that does not connect fails with the reason; nothing is sent, and nothing seen. -/
  refused : ∀ reason, s.transport.refusal = some reason →
    (bot.start batches).run s = ⟨.error (.connection (.plain reason)), s.withAttempt s.attempt,
      [⟨bot.connectingEvent s, none⟩]⟩ ∧
    (bot.watched.start batches).run (s.watching []) =
      ⟨.error (.connection (.plain reason)), (s.withAttempt s.attempt).watching [],
        [⟨bot.connectingEvent s, none⟩]⟩

theorem comesTo_oneByOne (bot : Bot H M) (s : BotState H M) (batches : List (List Record)) :
    bot.ComesTo s batches (bot.oneByOne s batches.flatten) where
  run _ := bot.leads_run { state := s } batches
  start h := bot.leads_start h batches
  refused _ h :=
    ⟨bot.start_run_of_some h batches, bot.watched.start_run_of_some (s := s.watching []) h batches⟩

/-- **Where batches begin and end does not matter.**  Batches of the same records in the same order
come to the same state, with the messages sent and the memory of stages and handlers, to the same
reports, every call of a handler among them, and to the same inputs of all parts: those of the
records one after the other, each in the state that the one before it has left.  And every record
comes to the first part of the bot, whatever becomes of those before it. -/
theorem comesTo_of_flatten_eq (bot : Bot H M) (s : BotState H M)
    (batches batches' : List (List Record)) (h : batches.flatten = batches'.flatten) :
    bot.ComesTo s batches (bot.oneByOne s batches.flatten) ∧
      bot.ComesTo s batches' (bot.oneByOne s batches.flatten) ∧
      inputsOf bot.entrance (bot.oneByOne s batches.flatten).seen = batches.flatten := by
  refine ⟨bot.comesTo_oneByOne s batches, ?_, ?_⟩
  · rw [h]
    exact bot.comesTo_oneByOne s batches'
  · rw [oneByOne, inputsOf_entrance_foldl]
    rfl

/-- A bot that fails on empty messages, and otherwise makes the message its home room and replies
it. -/
def moveBot : Bot Unit Unit where
  name := "move".toList
  transformers := [Stage.ofFunction fun record =>
    if record.message.isEmpty then .error (.plain "empty".toList) else .ok (some record)]
  filters := []
  consumer record := do
    World.setRoom record.message
    return .reply record.message

/-- A record of the usual channel. -/
def saying (message : String) : Record :=
  { channel := "global".toList, message := message.toList }

/-- Three records in one batch and in three, the second of which is dropped. -/
theorem comesTo_of_flatten_eq_moveBot :
    [[saying "a", saying "", saying "b"]].flatten =
      [[saying "a"], [], [saying "", saying "b"]].flatten ∧
    ((moveBot.run [[saying "a"], [], [saying "", saying "b"]] : Action _ Empty Unit).run
        { world := { memory := () } }).world.transport.sent.map (·.message.channel) =
      ["a".toList, "b".toList] ∧
    inputsOf (.transformer 0) (moveBot.oneByOne { world := { memory := () } }
      [saying "a", saying "", saying "b"]).seen = [saying "a", saying "", saying "b"] := by
  have h := moveBot.comesTo_of_flatten_eq { world := { memory := () } }
    [[saying "a", saying "", saying "b"]] [[saying "a"], [], [saying "", saying "b"]] rfl
  obtain ⟨log, hrun, -, -⟩ := h.2.1.run Empty
  refine ⟨rfl, ?_, h.2.2⟩
  simp only [hrun]
  decide +kernel

end Bot

end Switchboard
