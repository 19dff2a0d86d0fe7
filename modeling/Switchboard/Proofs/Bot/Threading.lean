import Switchboard.Proofs.Bot.Batches
import Switchboard.Proofs.Bot.Record
import Switchboard.Proofs.Command.Threading

/-!
# Bots side by side

Two bots whose handlers differ in nothing but what answers before the last segment of a pipe do not
pass on.  They send the same, report the same, and leave the same world but for the handlers.  What
is sent for a record is what the handler of its last segment answers, so a channel that an answer
before it names is never written to.

* `Bot.SameButHandlers`: bots whose consumers are command parsers with different handlers.
* `Bot.SameUpToThreading`: batches whose accepted records run as such pipes.
* `Bot.SentByLast`: a message for an answer of the last segment's handler.
* `Bot.alike_process`: such bots come to the same.
-/

namespace Switchboard

variable {H H₁ H₂ M ε α β : Type}

/-- The worlds differ in their handlers only, and the transports are the same. -/
structure BotState.SameButHandlers (s₁ : BotState H₁ M) (s₂ : BotState H₂ M) : Prop where
  world : Switchboard.SameButHandlers s₁.world s₂.world
  transport : s₁.transport = s₂.transport

theorem Action.run_eq_of_mapError_run {W δ : Type} {a : Action W ε α} {f : ε → δ} {w w' : W} {x : α}
    {log : List LogEntry} (h : (a.mapError f).run w = ⟨.ok x, w', log⟩) :
    a.run w = ⟨.ok x, w', log⟩ := by
  rcases hrun : a.run w with ⟨e | y, v, log'⟩
  · rw [Action.run_mapError_of_error f hrun] at h
    cases h
  · rw [Action.run_mapError_of_ok f hrun] at h
    cases h
    rfl

namespace Bot

/-- The bots have stages that do not care about handlers, and command parsers for their consumers. -/
structure SameButHandlers (meaning₁ : Meaning H₁ M) (meaning₂ : Meaning H₂ M) (bot₁ : Bot H₁ M)
    (bot₂ : Bot H₂ M) : Prop where
  name : bot₁.name = bot₂.name
  transformers : List.Forall₂ Stage.Alike bot₁.transformers bot₂.transformers
  filters : List.Forall₂ Stage.Alike bot₁.filters bot₂.filters
  consumer₁ : bot₁.consumer = consume meaning₁
  consumer₂ : bot₂.consumer = consume meaning₂

/-- Bots of alike choices, without a consumer of their own. -/
theorem sameButHandlers_build (meaning₁ : Meaning H₁ M) (meaning₂ : Meaning H₂ M)
    {o₁ : Options H₁ M} {o₂ : Options H₂ M} (hname : o₁.name = o₂.name)
    (husual : o₁.usualStages = o₂.usualStages)
    (htransformers : List.Forall₂ Stage.Alike o₁.transformers o₂.transformers)
    (hfilters : List.Forall₂ Stage.Alike o₁.filters o₂.filters)
    (hconsumers : o₁.consumer = none ∧ o₂.consumer = none) :
    SameButHandlers meaning₁ meaning₂ (build meaning₁ o₁) (build meaning₂ o₂) where
  name := hname
  transformers := by
    rw [build, build, husual]
    refine List.rel_append ?_ htransformers
    split
    · exact alike_usualTransformers
    · exact .nil
  filters := by
    rw [build, build, husual]
    refine List.rel_append ?_ hfilters
    split
    · exact alike_usualFilters
    · exact .nil
  consumer₁ := by rw [build, hconsumers.1]; rfl
  consumer₂ := by rw [build, hconsumers.2]; rfl

/-- The records that both bots accept, each in the states that those before it have left, run as
pipes whose handlers differ in what is not passed on. -/
def SameUpToThreading (meaning₁ : Meaning H₁ M) (meaning₂ : Meaning H₂ M) (bot₁ : Bot H₁ M)
    (bot₂ : Bot H₂ M) (batch : List Record) (s₁ : BotState H₁ M) (s₂ : BotState H₂ M) : Prop :=
  ∀ before record after, batch = before ++ record :: after → ∀ normalized w₁ w₂,
    bot₁.Accepts record (bot₁.oneByOne s₁ before).state.world w₁ normalized →
    bot₂.Accepts record (bot₂.oneByOne s₂ before).state.world w₂ normalized →
    Switchboard.SameUpToThreading meaning₁ meaning₂ normalized w₁ w₂

/-! ## One record -/

theorem alike_onWorld {a₁ : Action (World H₁ M) ε α} {a₂ : Action (World H₂ M) ε β}
    {R : α → β → Prop} {s₁ : BotState H₁ M} {s₂ : BotState H₂ M}
    (htransport : s₁.transport = s₂.transport)
    (h : Run.Alike Switchboard.SameButHandlers R (a₁.run s₁.world) (a₂.run s₂.world)) :
    Run.Alike BotState.SameButHandlers R ((onWorld a₁).run s₁) ((onWorld a₂).run s₂) := by
  rw [onWorld, onWorld, Action.run_zoom, Action.run_zoom]
  generalize a₁.run s₁.world = r₁ at h ⊢
  generalize a₂.run s₂.world = r₂ at h ⊢
  cases h with
  | ok hxy hw => exact .ok hxy ⟨hw, htransport⟩
  | error hw => exact .error ⟨hw, htransport⟩

/-- What is sent for an answer depends on the configuration, not on handlers. -/
theorem alike_deliver (answer : CommandResult) {s₁ : BotState H₁ M} {s₂ : BotState H₂ M}
    (h : s₁.SameButHandlers s₂) :
    Run.Alike BotState.SameButHandlers Eq
      ((deliver answer : Action (BotState H₁ M) ε Unit).run s₁)
      ((deliver answer : Action (BotState H₂ M) ε Unit).run s₂) := by
  rw [deliver_run, deliver_run, h.world.config]
  refine .ok rfl ⟨h.world, ?_⟩
  rw [BotState.withSent, BotState.withSent, h.transport]

theorem alike_processOrDrop {bot₁ : Bot H₁ M} {bot₂ : Bot H₂ M} {record : Record}
    {s₁ : BotState H₁ M} {s₂ : BotState H₂ M}
    (h : Run.Alike BotState.SameButHandlers Eq ((bot₁.processOne record).run s₁)
      ((bot₂.processOne record).run s₂)) :
    Run.Alike BotState.SameButHandlers Eq
      ((bot₁.processOrDrop record : Action (BotState H₁ M) ε Unit).run s₁)
      ((bot₂.processOrDrop record : Action (BotState H₂ M) ε Unit).run s₂) := by
  apply h.attempt.bind
  rintro outcome _ s₁' s₂' log - - rfl hs'
  cases outcome with
  | ok _ => exact .pure rfl hs'
  | error e => exact .emit _ hs'

/-! ## Records one after the other -/

theorem state_foldl_handleNext_congr (bot : Bot H M) {shift shift' : Shift H M}
    (h : shift.state = shift'.state) (records : List Record) :
    (records.foldl bot.handleNext shift).state = (records.foldl bot.handleNext shift').state := by
  induction records generalizing shift shift' with
  | nil => exact h
  | cons record rest ih =>
    refine ih ?_
    rw [handleNext, handleNext, h]

theorem state_oneByOne_cons (bot : Bot H M) (s : BotState H M) (record : Record)
    (records : List Record) : (bot.oneByOne s (record :: records)).state =
      (bot.oneByOne (bot.handleNext { state := s } record).state records).state := by
  let next : Shift H M := bot.handleNext { state := s } record
  have hstate : next.state = ({ state := next.state } : Shift H M).state := rfl
  exact bot.state_foldl_handleNext_congr hstate records

section Bots

variable {meaning₁ : Meaning H₁ M} {meaning₂ : Meaning H₂ M} {bot₁ : Bot H₁ M} {bot₂ : Bot H₂ M}
  (hbots : SameButHandlers meaning₁ meaning₂ bot₁ bot₂)

include hbots

theorem alike_accept : Stage.Alike bot₁.accept bot₂.accept :=
  .andThen (.linkAll hbots.transformers) (.guardedBy (.linkAll hbots.filters) .identity)

theorem alike_answer {record : Record} {w₁ : World H₁ M} {w₂ : World H₂ M}
    (hw : Switchboard.SameButHandlers w₁ w₂)
    (h : ∀ normalized w₁' w₂', bot₁.Accepts record w₁ w₁' normalized →
      bot₂.Accepts record w₂ w₂' normalized →
      Switchboard.SameUpToThreading meaning₁ meaning₂ normalized w₁' w₂') :
    Run.Alike Switchboard.SameButHandlers Eq ((bot₁.answer record).run w₁)
      ((bot₂.answer record).run w₂) := by
  have haccept := alike_accept hbots record w₁ w₂ hw
  apply (haccept.mapError BotError.stage).bind
  rintro accepted _ w₁' w₂' log hrun₁ hrun₂ rfl hw'
  cases accepted with
  | none => exact .pure rfl hw'
  | some normalized =>
    have haccepts₁ : bot₁.Accepts record w₁ w₁' normalized :=
      accepts_iff.mpr ⟨log, Action.run_eq_of_mapError_run hrun₁⟩
    have haccepts₂ : bot₂.Accepts record w₂ w₂' normalized :=
      accepts_iff.mpr ⟨log, Action.run_eq_of_mapError_run hrun₂⟩
    have hconsumer := alike_consume hw' (h normalized w₁' w₂' haccepts₁ haccepts₂)
    rw [← hbots.consumer₁, ← hbots.consumer₂] at hconsumer
    apply (hconsumer.mapError BotError.consumer).bind
    rintro answer _ v₁ v₂ log' - - rfl hv
    exact .pure rfl hv

theorem alike_processOne {record : Record} {s₁ : BotState H₁ M} {s₂ : BotState H₂ M}
    (hs : s₁.SameButHandlers s₂)
    (h : ∀ normalized w₁ w₂, bot₁.Accepts record s₁.world w₁ normalized →
      bot₂.Accepts record s₂.world w₂ normalized →
      Switchboard.SameUpToThreading meaning₁ meaning₂ normalized w₁ w₂) :
    Run.Alike BotState.SameButHandlers Eq ((bot₁.processOne record).run s₁)
      ((bot₂.processOne record).run s₂) := by
  rw [processOne_eq, processOne_eq]
  apply (alike_onWorld hs.transport (alike_answer hbots hs.world h)).bind
  rintro answered _ s₁' s₂' log - - rfl hs'
  cases answered with
  | none => exact .pure rfl hs'
  | some answer => exact alike_deliver answer hs'

/-- **Records one after the other keep bots alike.** -/
theorem alike_processAll {batch : List Record} {s₁ : BotState H₁ M} {s₂ : BotState H₂ M}
    (hs : s₁.SameButHandlers s₂) (h : SameUpToThreading meaning₁ meaning₂ bot₁ bot₂ batch s₁ s₂) :
    Run.Alike BotState.SameButHandlers Eq
      ((bot₁.processAll batch : Action (BotState H₁ M) ε Unit).run s₁)
      ((bot₂.processAll batch : Action (BotState H₂ M) ε Unit).run s₂) := by
  induction batch generalizing s₁ s₂ with
  | nil => exact .pure rfl hs
  | cons record rest ih =>
    have hone := alike_processOne hbots hs (h [] record rest rfl)
    apply (alike_processOrDrop hone).bind
    intro _ _ s₁' s₂' log hrun₁ hrun₂ _ hs'
    obtain ⟨log₁, hleads₁, -, -⟩ :=
      leads_processOrDrop (ε := ε) bot₁ { state := s₁ } record
    obtain ⟨log₂, hleads₂, -, -⟩ :=
      leads_processOrDrop (ε := ε) bot₂ { state := s₂ } record
    cases hrun₁.symm.trans hleads₁
    cases hrun₂.symm.trans hleads₂
    refine ih hs' ?_
    rintro before next after rfl normalized w₁ w₂ haccepts₁ haccepts₂
    refine h (record :: before) next after rfl normalized w₁ w₂ ?_ ?_
    · rw [state_oneByOne_cons]
      exact haccepts₁
    · rw [state_oneByOne_cons]
      exact haccepts₂

/-- **Batches keep bots alike.** -/
theorem alike_batch {batch : List Record} {s₁ : BotState H₁ M} {s₂ : BotState H₂ M}
    (hs : s₁.SameButHandlers s₂) (h : SameUpToThreading meaning₁ meaning₂ bot₁ bot₂ batch s₁ s₂) :
    Run.Alike BotState.SameButHandlers Eq
      ((bot₁.process batch : Action (BotState H₁ M) ε Unit).run s₁)
      ((bot₂.process batch : Action (BotState H₂ M) ε Unit).run s₂) := by
  rw [process, process, hbots.name]
  exact (alike_processAll hbots hs h).within _

end Bots

/-! ## What is sent for a record -/

/-- The message is for an answer of the handler that the last segment of the accepted record calls, and
is addressed by the configuration that this handler leaves. -/
def SentByLast (meaning : Meaning H M) (bot : Bot H M) (record : Record) (s : BotState H M)
    (d : Delivery) : Prop :=
  ∃ normalized w before last, bot.Accepts record s.world w normalized ∧
    commandTexts w.settings.pipes normalized.message = before ++ [last] ∧
    ∃ c ∈ (PipeState.behind meaning normalized w before).calls normalized last, ∃ answer,
      (c.run meaning).outcome = .ok answer ∧
      answer.delivery? (c.run meaning).world.config = some d

/-- **What is sent for a record is what the handler of its last segment answers.** -/
theorem exists_sentByLast {meaning : Meaning H M} {bot : Bot H M}
    (hconsumer : bot.consumer = consume meaning) (record : Record) (s : BotState H M) :
    ∃ sent, ((bot.processOne record).run s).world.transport =
        { s.transport with sent := s.transport.sent ++ sent } ∧
      ∀ d ∈ sent, bot.SentByLast meaning record s d := by
  obtain ⟨sent, htransport, -, hsent⟩ := (course_processOne bot record s).sends
  refine ⟨sent, htransport, fun d hd => ?_⟩
  obtain ⟨normalized, w, w', answer, haccepts, ⟨log, hends⟩, hdelivery⟩ := hsent d hd
  have hanswer : answer ≠ .silent := by
    rintro rfl
    cases hdelivery
  rw [hconsumer, consume_run] at hends
  obtain ⟨houtcome, hworld, -⟩ := Run.mk.inj hends
  obtain ⟨before, last, hlast, c, hc, hcall, hcalled⟩ := exists_last_call houtcome hanswer
  refine ⟨normalized, w, before, last, haccepts, hlast, c, hc, answer, hcall, ?_⟩
  rw [hcalled, hworld]
  exact hdelivery

/-! ## Two bots -/

/-- **Only what is passed on matters.**  Take two bots with handlers of their own for the same
commands.  If both run a message in worlds that differ in the handlers only, and the handlers that
they call for a segment, with the same invocation, do the same but for what answers before the last
segment do not pass on, then both runs end in the same way, report the same look-ups and calls, and
leave worlds that differ in the handlers only.  Every segment comes to a call of the same command with
the same invocation in both, or in neither to a call.  And a batch of such records sends the same.

In any run, a message is sent for what the handler of the last segment answers and for nothing else.
Answers that redirect a text pass on the same whatever channel they name, and so do arrays with the
same first item, whatever their tails are. -/
theorem alike_process {meaning₁ : Meaning H₁ M} {meaning₂ : Meaning H₂ M} {bot₁ : Bot H₁ M}
    {bot₂ : Bot H₂ M} (hbots : SameButHandlers meaning₁ meaning₂ bot₁ bot₂) :
    (∀ message w₁ w₂, Switchboard.SameButHandlers w₁ w₂ →
      Switchboard.SameUpToThreading meaning₁ meaning₂ message w₁ w₂ →
      Run.Alike Switchboard.SameButHandlers Eq ((parsePiped meaning₁ message).run w₁)
        ((parsePiped meaning₂ message).run w₂) ∧
      ∀ before segment after,
        commandTexts w₁.settings.pipes message.message = before ++ segment :: after →
        ((PipeState.behind meaning₁ message w₁ before).calls message segment).map
            (fun c => (c.entry.outline, c.invocation)) =
          ((PipeState.behind meaning₂ message w₂ before).calls message segment).map
            fun c => (c.entry.outline, c.invocation)) ∧
    (∀ batch s₁ s₂, s₁.SameButHandlers s₂ →
      SameUpToThreading meaning₁ meaning₂ bot₁ bot₂ batch s₁ s₂ →
      Run.Alike BotState.SameButHandlers Eq
        ((bot₁.process batch : Action (BotState H₁ M) ε Unit).run s₁)
        ((bot₂.process batch : Action (BotState H₂ M) ε Unit).run s₂)) ∧
    (∀ (meaning : Meaning H M) (bot : Bot H M), bot.consumer = consume meaning →
      ∀ record s, ∃ sent, ((bot.processOne record).run s).world.transport =
          { s.transport with sent := s.transport.sent ++ sent } ∧
        ∀ d ∈ sent, bot.SentByLast meaning record s d) ∧
    (∀ t channel channel', SameThreading (.redirect t channel) (.redirect t channel')) ∧
    ∀ v vs vs', SameThreading (.data (.array (v :: vs))) (.data (.array (v :: vs'))) := by
  refine ⟨?_, ?_, ?_, SameThreading.redirect, SameThreading.array_cons⟩
  · intro message w₁ w₂ hw h
    exact ⟨alike_parsePiped hw h, fun before segment after hsegments =>
      calls_behind_eq hw h hsegments⟩
  · intro batch s₁ s₂ hs h
    exact alike_batch hbots hs h
  · exact fun meaning bot hconsumer => exists_sentByLast hconsumer

/-- Handlers that answer and do nothing else. -/
def pureAnswer : Meaning (Invocation → CommandResult) Unit :=
  fun entry invocation => return entry.handler invocation

/-- A command that replies its arguments. -/
def say : Entry (Invocation → CommandResult) :=
  { name := "say".toList, handler := fun invocation => .reply invocation.rest }

/-- A world in which `first` gives a fixed answer, besides `say`. -/
def passWorld (answer : CommandResult) : World (Invocation → CommandResult) Unit :=
  let first : Entry (Invocation → CommandResult) :=
    { name := "first".toList, handler := fun _ => answer }
  { registry := ((Registry.empty.register first).2.register say).2, memory := () }

def passBot : Bot (Invocation → CommandResult) Unit := build pureAnswer { usualStages := false }

/-- The bot before its first record. -/
def passState (answer : CommandResult) : BotState (Invocation → CommandResult) Unit :=
  { world := passWorld answer }

def passing : Record := saying "!first | !say and"

theorem sameButHandlers_passWorld (answer₁ answer₂ : CommandResult) :
    Switchboard.SameButHandlers (passWorld answer₁) (passWorld answer₂) :=
  ⟨rfl, rfl, rfl, rfl⟩

theorem calls_first (answer : CommandResult) :
    (PipeState.behind pureAnswer passing (passWorld answer) []).calls passing "!first".toList =
      [{ entry := { name := "first".toList, handler := fun _ => answer }
         invocation := { message := passing.withMessage "first".toList, args := [] }
         world := passWorld answer }] :=
  rfl

theorem resolve_say (answer : CommandResult) (extra : List Text) :
    (passWorld answer).resolve (passing.withMessage "!say and".toList) extra =
      .call "say".toList say
        { message := passing.withMessage "say and".toList, args := "and".toList :: extra } :=
  rfl

theorem world_behind_first (answer : CommandResult) :
    (PipeState.behind pureAnswer passing (passWorld answer) ["!first".toList]).world =
      passWorld answer :=
  rfl

theorem run_of_mem_calls_say {answer : CommandResult} {c : Call (Invocation → CommandResult) Unit}
    (h : c ∈ (PipeState.behind pureAnswer passing (passWorld answer) ["!first".toList]).calls passing
      "!say and".toList) :
    c.run pureAnswer = ⟨.ok (.reply c.invocation.rest), passWorld answer, []⟩ := by
  cases hextra : (PipeState.behind pureAnswer passing (passWorld answer)
      ["!first".toList]).progress.extra? with
  | none =>
    rw [PipeState.calls_of_none hextra] at h
    cases h
  | some extra =>
    rw [PipeState.calls_of_some hextra, world_behind_first, resolve_say] at h
    rw [List.mem_singleton.mp h]
    rfl

/-- The handler of `first` may give any of two answers that pass on the same. -/
theorem sameUpToThreading_passing {answer₁ answer₂ : CommandResult}
    (h : SameThreading answer₁ answer₂) :
    Switchboard.SameUpToThreading pureAnswer pureAnswer passing (passWorld answer₁)
      (passWorld answer₂) := by
  have hworld := sameButHandlers_passWorld answer₁ answer₂
  have htexts : commandTexts (passWorld answer₁).settings.pipes passing.message =
      ["!first".toList, "!say and".toList] := rfl
  rw [Switchboard.SameUpToThreading, htexts]
  intro before segment after hsplit c₁ hc₁ c₂ hc₂ hinvocation
  match before with
  | [] =>
    obtain ⟨rfl, rfl⟩ := List.cons.inj hsplit
    rw [calls_first] at hc₁ hc₂
    rw [List.mem_singleton.mp hc₁, List.mem_singleton.mp hc₂]
    exact .ok h hworld
  | [_] =>
    obtain ⟨rfl, hrest⟩ := List.cons.inj hsplit
    obtain ⟨rfl, rfl⟩ := List.cons.inj hrest
    rw [run_of_mem_calls_say hc₁, run_of_mem_calls_say hc₂, hinvocation]
    exact .ok rfl hworld
  | _ :: _ :: before =>
    have hlength := congrArg List.length hsplit
    simp at hlength

theorem accept_passing (answer : CommandResult) :
    ((passBot.accept passing).run (passWorld answer)).Ends (.ok (some passing)) (passWorld answer) :=
  ⟨[], rfl⟩

theorem sameUpToThreading_passBot {answer₁ answer₂ : CommandResult}
    (h : SameThreading answer₁ answer₂) :
    SameUpToThreading pureAnswer pureAnswer passBot passBot [passing] (passState answer₁)
      (passState answer₂) := by
  intro before record after hsplit normalized w₁ w₂ haccepts₁ haccepts₂
  match before with
  | [] =>
    obtain ⟨rfl, -⟩ := List.cons.inj hsplit
    obtain ⟨heq, rfl⟩ := (accept_passing answer₁).unique (accepts_iff.mp haccepts₁)
    obtain ⟨-, rfl⟩ := (accept_passing answer₂).unique (accepts_iff.mp haccepts₂)
    cases heq
    exact sameUpToThreading_passing h
  | _ :: before =>
    have hlength := congrArg List.length hsplit
    simp at hlength

/-- A text for another channel and a list, of which the same is passed on: the text goes home with
`say` either way. -/
theorem alike_process_passing :
    SameThreading (.redirect "x".toList "den".toList)
      (.data (.array [.string "x".toList, .null])) ∧
    ((passBot.process [passing] : Action _ Empty Unit).run
        (passState (.redirect "x".toList "den".toList))).world.transport.sent.map
          (fun d => (d.message.message, d.message.channel)) =
      [("and x".toList, "global".toList)] ∧
    ((passBot.process [passing] : Action _ Empty Unit).run
        (passState (.data (.array [.string "x".toList, .null])))).world.transport =
      ((passBot.process [passing] : Action _ Empty Unit).run
        (passState (.redirect "x".toList "den".toList))).world.transport := by
  have hthreading : SameThreading (.redirect "x".toList "den".toList)
      (.data (.array [.string "x".toList, .null])) := ⟨_, .redirect _ _, .stringFirst _ _⟩
  have hbots : SameButHandlers pureAnswer pureAnswer passBot passBot :=
    sameButHandlers_build pureAnswer pureAnswer rfl rfl .nil .nil ⟨rfl, rfl⟩
  have hstates : (passState (.redirect "x".toList "den".toList)).SameButHandlers
      (passState (.data (.array [.string "x".toList, .null]))) :=
    ⟨sameButHandlers_passWorld _ _, rfl⟩
  have halike := (alike_process (ε := Empty) (H := Unit) hbots).2.1 [passing] _ _ hstates
    (sameUpToThreading_passBot hthreading)
  exact ⟨hthreading, by decide +kernel, halike.world.transport.symm⟩

end Bot

end Switchboard
