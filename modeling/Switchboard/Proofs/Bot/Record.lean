import Switchboard.Proofs.Bot.Watch

/-!
# One record

What a bot makes of one record, whatever its stages, its consumer and their world: the consumer is
called if both lists of stages agree, at most one message goes out, and where it goes is settled by
the configuration that the consumer leaves.

* `Bot.Accepts`: the record reaches the consumer.
* `Bot.StageFails`: the failure of the first stage that fails.
* `Bot.Handled`: everything that handling a record comes to.
* `Bot.handled_processOne`: every record is handled so.
-/

namespace Switchboard

variable {H M W ε α : Type}

/-- How a run ends and in which world. -/
def Run.Ends (r : Run W ε α) (outcome : Except ε α) (w : W) : Prop := ∃ log, r = ⟨outcome, w, log⟩

theorem Run.Ends.unique {r : Run W ε α} {outcome outcome' : Except ε α} {w w' : W}
    (h : r.Ends outcome w) (h' : r.Ends outcome' w') : outcome' = outcome ∧ w' = w := by
  obtain ⟨log, rfl⟩ := h
  obtain ⟨log', h'⟩ := h'
  cases h'
  exact ⟨rfl, rfl⟩

theorem Run.exists_ends_iff {r : Run W ε α} {outcome : Except ε α} :
    (∃ w, r.Ends outcome w) ↔ r.outcome = outcome := by
  constructor
  · rintro ⟨w, log, rfl⟩
    rfl
  · rintro rfl
    exact ⟨r.world, r.log, rfl⟩

namespace Bot

open Stage

/-! ## Passing the stages -/

/-- The transformers turn the record into `normalized`, and the filters make something of that; this
leaves the second world. -/
def Accepts (bot : Bot H M) (record : Record) (w w' : World H M) (normalized : Record) : Prop :=
  ∃ between out, ((bot.transform record).run w).Ends (.ok (some normalized)) between ∧
    ((bot.filter normalized).run between).Ends (.ok (some out)) w'

/-- A stage fails after all before it have yielded something: a transformer on what those before it
make of the record, or a filter on the normalized record. -/
inductive StageFails (bot : Bot H M) (record : Record) (w : World H M) (e : Failure) : Prop where
  | transformer : FailsBehind (fun _ y => y) identity bot.transformers record w e →
      StageFails bot record w e
  | filter (normalized : Record) (between : World H M) :
      ((bot.transform record).run w).Ends (.ok (some normalized)) between →
      FailsBehind (fun x _ => x) identity bot.filters normalized between e →
      StageFails bot record w e

theorem accepts_iff {bot : Bot H M} {record normalized : Record} {w w' : World H M} :
    bot.Accepts record w w' normalized ↔
      ((bot.accept record).run w).Ends (.ok (some normalized)) w' := by
  rw [accept_run]
  constructor
  · rintro ⟨between, out, ⟨log, htransform⟩, log', hfilter⟩
    rw [htransform]
    simp only [hfilter]
    exact ⟨log ++ log', rfl⟩
  · rintro ⟨log, h⟩
    rcases htransform : (bot.transform record).run w with ⟨e | _ | output, between, log₁⟩ <;>
      rw [htransform] at h
    · cases h
    · cases h
    · rcases hfilter : (bot.filter output).run between with ⟨e | _ | out, w'', log₂⟩ <;>
        simp only [hfilter] at h
      · cases h
      · cases h
      · cases h
        exact ⟨between, out, ⟨log₁, htransform⟩, log₂, hfilter⟩

theorem stageFails_iff {bot : Bot H M} {record : Record} {w : World H M} {e : Failure} :
    bot.StageFails record w e ↔ ((bot.accept record).run w).outcome = .error e := by
  rw [accept_run]
  constructor
  · rintro (h | ⟨normalized, between, ⟨log, htransform⟩, h⟩)
    · have hfails : ((bot.transform record).run w).outcome = .error e :=
        outcome_linkAll_eq_error_iff.mpr h
      rcases htransform : (bot.transform record).run w with ⟨outcome, between, log⟩
      rw [htransform] at hfails
      cases hfails
      rfl
    · have hfails : ((bot.filter normalized).run between).outcome = .error e :=
        outcome_linkAll_eq_error_iff.mpr h
      rw [htransform]
      simp only []
      rcases hfilter : (bot.filter normalized).run between with ⟨outcome, w', log'⟩
      rw [hfilter] at hfails
      cases hfails
      rfl
  · intro h
    rcases htransform : (bot.transform record).run w with ⟨e' | _ | normalized, between, log₁⟩ <;>
      rw [htransform] at h
    · cases h
      exact .transformer (outcome_linkAll_eq_error_iff.mp (congrArg Run.outcome htransform))
    · cases h
    · rcases hfilter : (bot.filter normalized).run between with ⟨e' | _ | out, w', log₂⟩ <;>
        simp only [hfilter] at h
      · cases h
        exact .filter normalized between ⟨log₁, htransform⟩
          (outcome_linkAll_eq_error_iff.mp (congrArg Run.outcome hfilter))
      · cases h
      · cases h

/-! ## Handling a record -/

/-- Everything that handling a record comes to, by what the stages and the consumer make of it. -/
structure Handled (bot : Bot H M) (record : Record) (s : BotState H M)
    (run : Run (BotState H M) BotError Unit) : Prop where
  /-- The consumer is called once if the record is accepted, with the transformers' output, and not
  at all otherwise. -/
  consumer_called : ∃ seen,
    (bot.watched.processOne record).run (s.watching []) =
      ⟨run.outcome, run.world.watching seen, run.log⟩ ∧
    (∀ input, inputsOf .consumer seen = [input] ↔ ∃ w, bot.Accepts record s.world w input) ∧
    ((∀ w input, ¬bot.Accepts record s.world w input) →
      inputsOf .consumer seen = [])
  /-- At most one message goes out, for an answer of the consumer, and nothing else happens to the
  transport. -/
  sends : ∃ sent, run.world.transport = { s.transport with sent := s.transport.sent ++ sent } ∧
    sent.length ≤ 1 ∧ ∀ d ∈ sent, ∃ normalized w w' answer,
      bot.Accepts record s.world w normalized ∧
      ((bot.consumer normalized).run w).Ends (.ok answer) w' ∧
      answer.delivery? w'.config = some d
  /-- Behind an answer the world is the one that the consumer leaves, and what is sent is addressed
  by its configuration. -/
  answered : ∀ normalized w w' answer, bot.Accepts record s.world w normalized →
    ((bot.consumer normalized).run w).Ends (.ok answer) w' →
    run.outcome = .ok () ∧
    run.world = { s with world := w' }.withSent (answer.delivery? w'.config).toList
  /-- Behind a failure of the consumer the world is the one that it leaves, and nothing is sent. -/
  consumer_failed : ∀ normalized w w' e, bot.Accepts record s.world w normalized →
    ((bot.consumer normalized).run w).Ends (.error e) w' →
    run.outcome = .error (.consumer e) ∧ run.world = { s with world := w' }
  /-- A record that is held back is no error, and nothing is sent. -/
  held_back : (∀ w normalized, ¬bot.Accepts record s.world w normalized) →
    (∀ e, ¬bot.StageFails record s.world e) →
    run.outcome = .ok () ∧ run.world.transport = s.transport
  /-- Nothing is sent where something fails. -/
  failed : ∀ e, run.outcome = .error e → run.world.transport = s.transport
  /-- A stage error is the failure of the first stage that fails. -/
  stage_error_iff : ∀ e, run.outcome = .error (.stage e) ↔ bot.StageFails record s.world e
  /-- A consumer error is the failure of the consumer. -/
  consumer_error_iff : ∀ e, run.outcome = .error (.consumer e) ↔
    ∃ normalized w, bot.Accepts record s.world w normalized ∧
      ((bot.consumer normalized).run w).outcome = .error e
  /-- There are no other errors. -/
  no_connection_error : ∀ e, run.outcome ≠ .error (.connection e)

/-! ## The four ways -/

/-- The ways that the handling of a record can go, with what each leaves behind. -/
inductive Course (bot : Bot H M) (record : Record) (s : BotState H M) :
    Run (BotState H M) BotError Unit → Prop
  | stageError {e : Failure} {w : World H M} {log : List LogEntry} :
      (bot.accept record).run s.world = ⟨.error e, w, log⟩ →
      Course bot record s ⟨.error (.stage e), { s with world := w }, log⟩
  | heldBack {w : World H M} {log : List LogEntry} :
      (bot.accept record).run s.world = ⟨.ok none, w, log⟩ →
      Course bot record s ⟨.ok (), { s with world := w }, log⟩
  | consumerError {normalized : Record} {e : Failure} {w w' : World H M}
      {log log' : List LogEntry} :
      (bot.accept record).run s.world = ⟨.ok (some normalized), w, log⟩ →
      (bot.consumer normalized).run w = ⟨.error e, w', log'⟩ →
      Course bot record s ⟨.error (.consumer e), { s with world := w' }, log ++ log'⟩
  | answered {normalized : Record} {answer : CommandResult} {w w' : World H M}
      {log log' : List LogEntry} :
      (bot.accept record).run s.world = ⟨.ok (some normalized), w, log⟩ →
      (bot.consumer normalized).run w = ⟨.ok answer, w', log'⟩ →
      Course bot record s
        ⟨.ok (), { s with world := w' }.withSent (answer.delivery? w'.config).toList,
          log ++ log' ++ (answer.deliveryEvents w'.config).map fun e => { event := e }⟩

/-- The handling of a record goes one of the ways. -/
theorem course_processOne (bot : Bot H M) (record : Record) (s : BotState H M) :
    Course bot record s ((bot.processOne record).run s) := by
  rw [processOne_run, answer_run]
  rcases haccept : (bot.accept record).run s.world with ⟨e | _ | normalized, w, log⟩
  · exact .stageError haccept
  · exact .heldBack haccept
  · rcases hconsumer : (bot.consumer normalized).run w with ⟨e | answer, w', log'⟩ <;>
      simp only [hconsumer]
    · exact .consumerError haccept hconsumer
    · exact .answered haccept hconsumer

theorem inputsOf_consumer_eq_singleton_iff {bot : Bot H M} {record input : Record}
    {w : World H M} :
    inputsOf .consumer (bot.sightings record w) = [input] ↔ ∃ w', bot.Accepts record w w' input := by
  simp only [accepts_iff, Run.exists_ends_iff, inputsOf_consumer_sightings]
  rcases ((bot.accept record).run w).outcome with e | _ | normalized <;> simp

theorem inputsOf_consumer_eq_nil {bot : Bot H M} {record : Record} {w : World H M}
    (h : ∀ w' input, ¬bot.Accepts record w w' input) :
    inputsOf .consumer (bot.sightings record w) = [] := by
  rw [inputsOf_consumer_sightings]
  split
  · next normalized haccept =>
    obtain ⟨w', hends⟩ := Run.exists_ends_iff.mpr haccept
    exact absurd (accepts_iff.mpr hends) (h w' normalized)
  · rfl

namespace Course

variable {bot : Bot H M} {record : Record} {s : BotState H M}
  {run : Run (BotState H M) BotError Unit}

theorem sends (h : Course bot record s run) :
    ∃ sent, run.world.transport = { s.transport with sent := s.transport.sent ++ sent } ∧
      sent.length ≤ 1 ∧ ∀ d ∈ sent, ∃ normalized w w' answer,
        bot.Accepts record s.world w normalized ∧
        ((bot.consumer normalized).run w).Ends (.ok answer) w' ∧
        answer.delivery? w'.config = some d := by
  have hnothing : s.transport = { s.transport with sent := s.transport.sent ++ [] } := by
    rw [List.append_nil]
  cases h with
  | stageError haccept => exact ⟨[], hnothing, Nat.zero_le _, fun d hd => nomatch hd⟩
  | heldBack haccept => exact ⟨[], hnothing, Nat.zero_le _, fun d hd => nomatch hd⟩
  | consumerError haccept hconsumer =>
    exact ⟨[], hnothing, Nat.zero_le _, fun d hd => nomatch hd⟩
  | @answered normalized answer w w' log log' haccept hconsumer =>
    refine ⟨(answer.delivery? w'.config).toList, rfl, ?_, fun d hd => ?_⟩
    · cases answer.delivery? w'.config
      · exact Nat.zero_le _
      · exact Nat.le_refl _
    · exact ⟨normalized, w, w', answer, accepts_iff.mpr ⟨log, haccept⟩, ⟨log', hconsumer⟩,
        Option.mem_toList.mp hd⟩

/-- What becomes of a record that is accepted is for the consumer to say. -/
theorem of_accepts (h : Course bot record s run) {normalized : Record} {w : World H M}
    (haccepts : bot.Accepts record s.world w normalized) :
    (∃ e w', ((bot.consumer normalized).run w).Ends (.error e) w' ∧
      run.outcome = .error (.consumer e) ∧ run.world = { s with world := w' }) ∨
    ∃ answer w', ((bot.consumer normalized).run w).Ends (.ok answer) w' ∧ run.outcome = .ok () ∧
      run.world = { s with world := w' }.withSent (answer.delivery? w'.config).toList := by
  obtain ⟨log, haccept⟩ := accepts_iff.mp haccepts
  cases h with
  | stageError haccept' => rw [haccept] at haccept'; cases haccept'
  | heldBack haccept' => rw [haccept] at haccept'; cases haccept'
  | consumerError haccept' hconsumer =>
    rw [haccept] at haccept'
    cases haccept'
    exact .inl ⟨_, _, ⟨_, hconsumer⟩, rfl, rfl⟩
  | answered haccept' hconsumer =>
    rw [haccept] at haccept'
    cases haccept'
    exact .inr ⟨_, _, ⟨_, hconsumer⟩, rfl, rfl⟩

theorem of_answer (h : Course bot record s run) {normalized : Record} {w w' : World H M}
    {answer : CommandResult} (haccepts : bot.Accepts record s.world w normalized)
    (hends : ((bot.consumer normalized).run w).Ends (.ok answer) w') :
    run.outcome = .ok () ∧
      run.world = { s with world := w' }.withSent (answer.delivery? w'.config).toList := by
  obtain ⟨e, w₁, hends', -⟩ | ⟨answer', w₁, hends', hrun⟩ := h.of_accepts haccepts
  · cases (hends.unique hends').1
  · obtain ⟨hanswer, rfl⟩ := hends.unique hends'
    cases hanswer
    exact hrun

theorem of_consumer_error (h : Course bot record s run) {normalized : Record} {w w' : World H M}
    {e : Failure} (haccepts : bot.Accepts record s.world w normalized)
    (hends : ((bot.consumer normalized).run w).Ends (.error e) w') :
    run.outcome = .error (.consumer e) ∧ run.world = { s with world := w' } := by
  obtain ⟨e', w₁, hends', hrun⟩ | ⟨answer, w₁, hends', -⟩ := h.of_accepts haccepts
  · obtain ⟨herror, rfl⟩ := hends.unique hends'
    cases herror
    exact hrun
  · cases (hends.unique hends').1

theorem stage_error_iff (h : Course bot record s run) {e : Failure} :
    run.outcome = .error (.stage e) ↔ bot.StageFails record s.world e := by
  rw [stageFails_iff]
  cases h with
  | stageError haccept => rw [haccept]; simp
  | heldBack haccept => rw [haccept]; simp
  | consumerError haccept => rw [haccept]; simp
  | answered haccept => rw [haccept]; simp

theorem consumer_error_iff (h : Course bot record s run) {e : Failure} :
    run.outcome = .error (.consumer e) ↔ ∃ normalized w,
      bot.Accepts record s.world w normalized ∧
      ((bot.consumer normalized).run w).outcome = .error e := by
  constructor
  · intro herror
    cases h with
    | stageError haccept => cases herror
    | heldBack haccept => cases herror
    | @consumerError normalized e w w' log log' haccept hconsumer =>
      cases herror
      exact ⟨normalized, w, accepts_iff.mpr ⟨log, haccept⟩, by rw [hconsumer]⟩
    | answered haccept => cases herror
  · rintro ⟨normalized, w, haccepts, hfails⟩
    obtain ⟨w', hends⟩ := Run.exists_ends_iff.mpr hfails
    exact (h.of_consumer_error haccepts hends).1

theorem ne_connection (h : Course bot record s run) {e : Failure} :
    run.outcome ≠ .error (.connection e) := by
  intro herror
  cases h <;> cases herror

theorem transport_of_error (h : Course bot record s run) {e : BotError}
    (herror : run.outcome = .error e) : run.world.transport = s.transport := by
  cases h with
  | answered => cases herror
  | _ => rfl

theorem of_held_back (h : Course bot record s run)
    (haccepts : ∀ w normalized, ¬bot.Accepts record s.world w normalized)
    (hfails : ∀ e, ¬bot.StageFails record s.world e) :
    run.outcome = .ok () ∧ run.world.transport = s.transport := by
  cases h with
  | stageError haccept => exact absurd (stageFails_iff.mpr (congrArg Run.outcome haccept)) (hfails _)
  | heldBack haccept => exact ⟨rfl, rfl⟩
  | consumerError haccept => exact absurd (accepts_iff.mpr ⟨_, haccept⟩) (haccepts _ _)
  | answered haccept => exact absurd (accepts_iff.mpr ⟨_, haccept⟩) (haccepts _ _)

end Course

/-- **Every record is handled so**: at most one message goes out, addressed by the configuration
that the consumer leaves, and the consumer is called just if both lists of stages agree. -/
theorem handled_processOne (bot : Bot H M) (record : Record) (s : BotState H M) :
    bot.Handled record s ((bot.processOne record).run s) where
  consumer_called :=
    ⟨bot.sightings record s.world, bot.watches_processOne record s [],
      fun _ => inputsOf_consumer_eq_singleton_iff, inputsOf_consumer_eq_nil⟩
  sends := (course_processOne bot record s).sends
  answered _ _ _ _ := (course_processOne bot record s).of_answer
  consumer_failed _ _ _ _ := (course_processOne bot record s).of_consumer_error
  held_back := (course_processOne bot record s).of_held_back
  failed _ := (course_processOne bot record s).transport_of_error
  stage_error_iff _ := (course_processOne bot record s).stage_error_iff
  consumer_error_iff _ := (course_processOne bot record s).consumer_error_iff
  no_connection_error _ := (course_processOne bot record s).ne_connection

end Bot

end Switchboard
