import Switchboard.Proofs.Bot.Host
import Switchboard.Proofs.Command.Detect

/-!
# What reaches the consumer

A bot with the usual stages hands a record to the consumer only if its markup was reduced, its room
attended to and its message a command, each in the world as it was when the stage ran.  To speak of
that world, every part of a bot notes it together with its input.

* `Bot.observed`: the bot, of which every part notes its input and the world.
* `Bot.moments`, `Bot.makes_processOne_observed`: what is noted of a record.
* `OnlyVisible`: what that says about the record that the consumer gets.
* `Bot.onlyVisible_work`: it holds of every record in every run of a host.
-/

namespace Switchboard

variable {H M ε α : Type}

open Stage Notebook

/-- A part of a bot gets an input in a world. -/
structure Moment (H M : Type) where
  part : Part
  input : Record
  world : World H M

namespace Bot

/-! ## Observed bots -/

/-- The bot, of which every stage and the consumer note their inputs and the world. -/
def observed (bot : Bot H M) : Bot H (M × List (Moment H M)) where
  name := bot.name
  transformers := bot.transformers.mapIdx fun i f record =>
    World.notebook.noticing (fun w => ⟨.transformer i, record, w⟩) (f record)
  filters := bot.filters.mapIdx fun i f record =>
    World.notebook.noticing (fun w => ⟨.filter i, record, w⟩) (f record)
  consumer record :=
    World.notebook.noticing (fun w => ⟨.consumer, record, w⟩) (bot.consumer record)

/-- What the transformers note of a record. -/
def transformerMoments (bot : Bot H M) (record : Record) (w : World H M) : List (Moment H M) :=
  trail (fun y => y) (fun i y w => ⟨.transformer i, y, w⟩) bot.transformers record w

/-- What the filters note of a normalized record. -/
def filterMoments (bot : Bot H M) (normalized : Record) (w : World H M) : List (Moment H M) :=
  trail (fun _ => normalized) (fun i y w => ⟨.filter i, y, w⟩) bot.filters normalized w

/-- What the consumer notes of a record. -/
def consumerMoments (record : Record) (w : World H M) : List (Moment H M) :=
  [⟨.consumer, record, w⟩]

/-- What the filters and the consumer note of a normalized record. -/
def laterMoments (bot : Bot H M) : Record → World H M → List (Moment H M) :=
  bot.laterNotes bot.filterMoments consumerMoments

/-- What is noted of a record. -/
def moments (bot : Bot H M) : Record → World H M → List (Moment H M) :=
  bot.recordNotes bot.transformerMoments bot.filterMoments consumerMoments

theorem laterMoments_eq (bot : Bot H M) (record : Record) (w : World H M) :
    bot.laterMoments record w = bot.filterMoments record w ++
      match (bot.filter record).run w with
      | ⟨.ok (some _), w', _⟩ => [⟨.consumer, record, w'⟩]
      | _ => [] := rfl

theorem moments_eq (bot : Bot H M) (record : Record) (w : World H M) :
    bot.moments record w = bot.transformerMoments record w ++
      match (bot.transform record).run w with
      | ⟨.ok (some normalized), w', _⟩ => bot.laterMoments normalized w'
      | _ => [] := rfl

theorem transform_eq_inTurn (bot : Bot H M) (record : Record) :
    bot.transform record = inTurn (fun y => y) bot.transformers record :=
  linkAll_eq_inTurn (fun _ y => y) bot.transformers record

theorem filter_eq_inTurn (bot : Bot H M) (record : Record) :
    bot.filter record = inTurn (fun _ => record) bot.filters record :=
  linkAll_eq_inTurn (fun x _ => x) bot.filters record

theorem makes_transform (bot : Bot H M) (record : Record) (w : World H M) :
    World.notebook.Makes w (bot.transformerMoments record w) (bot.transform record)
      (bot.observed.transform record) := by
  rw [transform_eq_inTurn, transform_eq_inTurn]
  exact makes_inTurn _ bot.transformers record w

theorem makes_filter (bot : Bot H M) (record : Record) (w : World H M) :
    World.notebook.Makes w (bot.filterMoments record w) (bot.filter record)
      (bot.observed.filter record) := by
  rw [filter_eq_inTurn, filter_eq_inTurn]
  exact makes_inTurn _ bot.filters record w

/-- **An observed bot handles a record as it does unobserved**, and notes its moments. -/
theorem makes_processOne_observed (bot : Bot H M) (record : Record) (s : BotState H M) :
    BotState.notebook.Makes s (bot.moments record s.world) (bot.processOne record)
      (bot.observed.processOne record) :=
  makes_processOne bot.makes_transform bot.makes_filter
    (fun normalized _ => makes_noticing _ (bot.consumer normalized)) record s

/-! ## The usual stages -/

/-- A bot of some choices with the usual stages. -/
def usual (meaning : Meaning H M) (o : Options H M) : Bot H M :=
  build meaning { o with usualStages := true }

end Bot

/-! ## Records that reach the consumer -/

/-- Every stage yields something for the next one, and the last the result. -/
inductive Threads {W : Type} : List (Stage W α α) → α → W → α → W → Prop
  | nil (x : α) (w : W) : Threads [] x w x w
  | cons {f : Stage W α α} {rest : List (Stage W α α)} {x y z : α} {w w' w'' : W}
      {log : List LogEntry} (h : (f x).run w = ⟨.ok (some y), w', log⟩)
      (hrest : Threads rest y w' z w'') : Threads (f :: rest) x w z w''

/-- The room check of the world lets the channel pass. -/
def World.Attends (w : World H M) (channel : Text) : Prop :=
  w.config.global = true ∨ channel = w.config.room

/-- Both usual filters have let the record pass, each in the world in which it ran. -/
def PassesUsual (moments : List (Moment H M)) (record : Record) : Prop :=
  ∃ w w', ⟨.filter 0, record, w⟩ ∈ moments ∧ w.Attends record.channel ∧
    ⟨.filter 1, record, w'⟩ ∈ moments ∧ w'.Detects record.message

/-- The record is what the added transformers make, one after the other, of the arrived record with
its markup reduced. -/
def Normalizes (o : Bot.Options H M) (arrived : Record) (moments : List (Moment H M))
    (record : Record) : Prop :=
  ∃ w w' text, ⟨.transformer 0, arrived, w⟩ ∈ moments ∧
    Markup.reduce arrived.message = .ok text ∧
    Threads o.transformers (arrived.withMessage text) w record w'

/-- The parts of a bot with the usual stages, in the order in which a record comes to them. -/
def Bot.Options.parts (o : Bot.Options H M) : List Part :=
  (List.range (o.transformers.length + 1)).map .transformer ++
    (List.range (o.filters.length + 2)).map .filter ++ [.consumer]

/-- What the moments of a record say of a bot with the usual stages. -/
structure OnlyVisible (o : Bot.Options H M) (arrived : Record) (moments : List (Moment H M)) :
    Prop where
  /-- The record comes to the first parts, each once and in order. -/
  in_order : moments.map Moment.part <+: o.parts
  normalized : ∀ m ∈ moments, m.part = .consumer → Normalizes o arrived moments m.input
  passed : ∀ m ∈ moments, m.part = .consumer → PassesUsual moments m.input
  /-- The added filters are asked only behind the usual ones. -/
  consulted : ∀ m ∈ moments, ∀ i, m.part = .filter (i + 2) → PassesUsual moments m.input

namespace Bot

variable {meaning : Meaning H M} {o : Options H M}

theorem threads_of_inTurn {W : Type} {stages : List (Stage W α α)} {x z : α} {w w' : W}
    {log : List LogEntry} (h : (inTurn (fun y => y) stages x).run w = ⟨.ok (some z), w', log⟩) :
    Threads stages x w z w' := by
  induction stages generalizing x w log with
  | nil =>
    have hnil : (inTurn (fun y => y) [] x).run w = ⟨.ok (some x), w, []⟩ := rfl
    rw [hnil] at h
    cases h
    exact .nil _ _
  | cons f rest ih =>
    have hturn : inTurn (fun y => y) (f :: rest) x = onward (f x) (inTurn (fun y => y) rest) := rfl
    rw [hturn] at h
    obtain hstops | ⟨y, w₁, log₁, hrun⟩ := stops_or_yields ((f x).run w)
    · rw [onward_run_of_stops _ hstops] at h
      exact absurd (congrArg Run.outcome h) (stops_halted _ z)
    · rw [onward_run_of_some hrun] at h
      rcases hrest : (inTurn (fun y => y) rest y).run w₁ with ⟨outcome, w₂, log₂⟩
      rw [hrest] at h
      cases h
      exact .cons hrun (ih hrest)

/-- The markup is reduced first, which leaves the world alone. -/
theorem normalizes_of_transform {arrived record : Record} {w w' : World H M} {log : List LogEntry}
    (h : ((usual meaning o).transform arrived).run w = ⟨.ok (some record), w', log⟩) :
    Normalizes o arrived ((usual meaning o).moments arrived w) record := by
  have hturn : (usual meaning o).transform arrived =
      onward (reduceMarkup.logged Markup.reduceName arrived) (inTurn (fun y => y) o.transformers) :=
    transform_eq_inTurn (usual meaning o) arrived
  have hfirst : ⟨.transformer 0, arrived, w⟩ ∈ (usual meaning o).moments arrived w :=
    List.mem_append_left _ List.mem_cons_self
  rw [hturn] at h
  cases hreduce : Markup.reduce arrived.message with
  | error e =>
    have hrun := logged_run Markup.reduceName reduceMarkup arrived w
    rw [reduceMarkup_run_of_error hreduce] at hrun
    rw [onward, Action.run_bind_of_error hrun] at h
    cases h
  | ok text =>
    have hrun := logged_run Markup.reduceName reduceMarkup arrived w
    rw [reduceMarkup_run_of_ok hreduce] at hrun
    rw [onward_run_of_some hrun] at h
    rcases hrest : (inTurn (fun y => y) o.transformers (arrived.withMessage text)).run w with
      ⟨outcome, w₂, log₂⟩
    rw [hrest] at h
    cases h
    exact ⟨w, _, text, hfirst, hreduce, threads_of_inTurn hrest⟩

theorem laterMoments_of_stops {bot : Bot H M} {record : Record} {w : World H M}
    (h : Stops ((bot.filter record).run w)) :
    bot.laterMoments record w = bot.filterMoments record w := by
  obtain ⟨e, w', log, hrun⟩ | ⟨w', log, hrun⟩ := h.eq_error_or_none <;>
    rw [laterMoments_eq, hrun, List.append_nil]

section Filters

variable {bot : Bot H M} {f g : Stage (World H M) Record Record}
  {rest : List (Stage (World H M) Record Record)} {record out : Record} {w w' : World H M}
  {log : List LogEntry}

/-- A first filter that holds the record back is the only part that is asked. -/
theorem laterMoments_of_first_stops (hfilters : bot.filters = f :: rest)
    (h : Stops ((f record).run w)) :
    bot.laterMoments record w = [⟨.filter 0, record, w⟩] := by
  have hstops : Stops ((bot.filter record).run w) := by
    have hturn : inTurn (fun _ => record) (f :: rest) record =
        onward (f record) (inTurn (fun _ => record) rest) := rfl
    rw [filter_eq_inTurn, hfilters, hturn, onward_run_of_stops _ h]
    exact stops_halted _
  rw [laterMoments_of_stops hstops, filterMoments, hfilters, trail_cons_of_stops h]

theorem laterMoments_of_second_stops (hfilters : bot.filters = f :: g :: rest)
    (hfirst : (f record).run w = ⟨.ok (some out), w', log⟩) (h : Stops ((g record).run w')) :
    bot.laterMoments record w = [⟨.filter 0, record, w⟩, ⟨.filter 1, record, w'⟩] := by
  have hstops : Stops ((bot.filter record).run w) := by
    have hturn : inTurn (fun _ => record) (f :: g :: rest) record =
        onward (f record) fun _ => onward (g record) (inTurn (fun _ => record) rest) := rfl
    rw [filter_eq_inTurn, hfilters, hturn, onward_run_of_some hfirst, onward_run_of_stops _ h]
    exact fun y hy => stops_halted _ y hy
  rw [laterMoments_of_stops hstops, filterMoments, hfilters, trail_cons_of_some hfirst,
    trail_cons_of_stops h]

theorem mem_laterMoments_of_some (hfilters : bot.filters = f :: g :: rest)
    (hfirst : (f record).run w = ⟨.ok (some out), w', log⟩) :
    ⟨.filter 0, record, w⟩ ∈ bot.laterMoments record w ∧
      ⟨.filter 1, record, w'⟩ ∈ bot.laterMoments record w := by
  rw [laterMoments_eq, filterMoments, hfilters, trail_cons_of_some hfirst]
  constructor
  · exact List.mem_append_left _ List.mem_cons_self
  · exact List.mem_append_left _ (List.mem_cons_of_mem _ List.mem_cons_self)

end Filters

/-- Either both usual filters let the record pass, or nothing behind them is asked. -/
theorem passesUsual_or (meaning : Meaning H M) (o : Options H M) (record : Record)
    (w : World H M) :
    PassesUsual ((usual meaning o).laterMoments record w) record ∨
      ∀ m ∈ (usual meaning o).laterMoments record w, m.part = .filter 0 ∨ m.part = .filter 1 := by
  have hfilters : (usual meaning o).filters = roomCheck.logged "room_check".toList ::
      commandFilter.logged "is_command".toList :: o.filters := rfl
  have hroom := logged_run "room_check".toList roomCheck record w
  have hcommand := logged_run "is_command".toList commandFilter record w
  rw [roomCheck_run] at hroom
  rw [commandFilter_run] at hcommand
  by_cases haccepts : w.config.accepts record.channel = true
  · rw [if_pos haccepts] at hroom
    by_cases hdetects : w.Detects record.message
    · have hattends : w.Attends record.channel := by
        rw [Config.accepts, Bool.or_eq_true, beq_iff_eq] at haccepts
        exact haccepts.imp id Eq.symm
      have hmem := mem_laterMoments_of_some hfilters hroom
      exact .inl ⟨w, w, hmem.1, hattends, hmem.2, hdetects⟩
    · have hstops : Stops ((commandFilter.logged "is_command".toList record).run w) := by
        rw [hcommand, World.isCommand?, matchedPrefix?_eq_none_iff.mpr hdetects]
        exact stops_none
      right
      rw [laterMoments_of_second_stops hfilters hroom hstops]
      intro m hm
      obtain rfl | hm := List.mem_cons.mp hm
      · exact .inl rfl
      · rw [List.mem_singleton.mp hm]
        exact .inr rfl
  · have hstops : Stops ((roomCheck.logged "room_check".toList record).run w) := by
      rw [hroom, if_neg haccepts]
      exact stops_none
    right
    rw [laterMoments_of_first_stops hfilters hstops]
    intro m hm
    rw [List.mem_singleton.mp hm]
    exact .inl rfl

theorem input_of_mem_laterMoments {bot : Bot H M} {record : Record} {w : World H M}
    {m : Moment H M} (h : m ∈ bot.laterMoments record w) : m.input = record := by
  rw [laterMoments_eq] at h
  obtain h | h := List.mem_append.mp h
  · obtain ⟨i, y, w', rfl⟩ := exists_of_mem_trail h
    rfl
  · split at h
    · rw [List.mem_singleton.mp h]
    · cases h

theorem part_of_mem_transformerMoments {bot : Bot H M} {record : Record} {w : World H M}
    {m : Moment H M} (h : m ∈ bot.transformerMoments record w) : ∃ i, m.part = .transformer i := by
  obtain ⟨i, y, w', rfl⟩ := exists_of_mem_trail h
  exact ⟨i, rfl⟩

theorem map_part_laterMoments (bot : Bot H M) (record : Record) (w : World H M) :
    (bot.laterMoments record w).map Moment.part <+:
      (List.range bot.filters.length).map .filter ++ [.consumer] := by
  have hplaces := map_trail Moment.part (fun _ => record)
    (fun i y w => (⟨.filter i, y, w⟩ : Moment H M)) .filter (fun _ _ _ => rfl) bot.filters record w
  obtain hstops | ⟨out, w', log, hrun⟩ := stops_or_yields ((bot.filter record).run w)
  · rw [laterMoments_of_stops hstops]
    exact hplaces.1.trans (List.prefix_append _ _)
  · have hall := hplaces.2 ⟨out, by rw [← filter_eq_inTurn, hrun]⟩
    rw [laterMoments_eq, hrun, List.map_append, filterMoments, hall]
    exact List.prefix_refl _

theorem map_part_moments (bot : Bot H M) (record : Record) (w : World H M) :
    (bot.moments record w).map Moment.part <+:
      (List.range bot.transformers.length).map .transformer ++
        (List.range bot.filters.length).map .filter ++ [.consumer] := by
  have hplaces := map_trail Moment.part (fun y => y)
    (fun i y w => (⟨.transformer i, y, w⟩ : Moment H M)) .transformer (fun _ _ _ => rfl)
    bot.transformers record w
  rw [List.append_assoc]
  rcases hrun : (bot.transform record).run w with ⟨e | _ | normalized, w', log⟩
  · rw [moments_eq, hrun, List.append_nil]
    exact hplaces.1.trans (List.prefix_append _ _)
  · rw [moments_eq, hrun, List.append_nil]
    exact hplaces.1.trans (List.prefix_append _ _)
  · have hall := hplaces.2 ⟨normalized, by rw [← transform_eq_inTurn, hrun]⟩
    rw [moments_eq, hrun, List.map_append, transformerMoments, hall]
    exact (List.prefix_append_right_inj _).mpr (bot.map_part_laterMoments normalized w')

/-- A record comes to the consumer or to an added filter only behind the usual stages. -/
theorem onlyVisible_moments (meaning : Meaning H M) (o : Options H M) (arrived : Record)
    (w : World H M) : OnlyVisible o arrived ((usual meaning o).moments arrived w) := by
  have horder := (usual meaning o).map_part_moments arrived w
  -- the consumer and the added filters are alike in this: both are behind the usual filters
  have hbehind : ∀ m ∈ (usual meaning o).moments arrived w,
      (m.part = .consumer ∨ ∃ i, m.part = .filter (i + 2)) →
      Normalizes o arrived ((usual meaning o).moments arrived w) m.input ∧
        PassesUsual ((usual meaning o).moments arrived w) m.input := by
    intro m hm hpart
    obtain hm | hm := List.mem_append.mp hm
    · obtain ⟨i, hi⟩ := part_of_mem_transformerMoments hm
      rw [hi] at hpart
      obtain hpart | ⟨j, hpart⟩ := hpart <;> cases hpart
    · rcases hrun : ((usual meaning o).transform arrived).run w with ⟨e | _ | normalized, w', log⟩ <;>
        rw [hrun] at hm
      · cases hm
      · cases hm
      · have hlater : (usual meaning o).laterMoments normalized w' ⊆
            (usual meaning o).moments arrived w := by
          rw [moments_eq, hrun]
          exact List.subset_append_right _ _
        have hinput : m.input = normalized := input_of_mem_laterMoments hm
        rw [hinput]
        refine ⟨normalizes_of_transform hrun, ?_⟩
        obtain ⟨w₀, w₁, hroom, hattends, hcommand, hdetects⟩ | hfirst :=
          passesUsual_or meaning o normalized w'
        · exact ⟨w₀, w₁, hlater hroom, hattends, hlater hcommand, hdetects⟩
        · obtain hconsumer | ⟨i, hfilter⟩ := hpart
          · obtain h | h := hfirst m hm <;> rw [hconsumer] at h <;> cases h
          · obtain h | h := hfirst m hm <;> rw [hfilter] at h <;> cases h
  exact
    { in_order := horder
      normalized := fun m hm hpart => (hbehind m hm (.inl hpart)).1
      passed := fun m hm hpart => (hbehind m hm (.inl hpart)).2
      consulted := fun m hm i hpart => (hbehind m hm (.inr ⟨i, hpart⟩)).2 }

/-! ## Runs of a host -/

/-- What is noted while a task is done: nothing, if it is no record. -/
def TaskVisible (o : Options H M) {A : Type} : Task A → List (Moment H M) → Prop
  | .act _, moments => moments = []
  | .record r, moments => OnlyVisible o r moments

theorem blocks_onlyVisible {A : Type} {tasks : List (Task A)} {moments : List (Moment H M)}
    (h : Blocks (TaskVisible o) tasks moments) :
    Blocks (OnlyVisible o) (tasks.filterMap Task.record?) moments := by
  induction h with
  | nil => exact .nil
  | @cons t ts _ _ ht _ ih =>
    cases t with
    | act a =>
      have hnone : ((Task.act a) :: ts).filterMap Task.record? = ts.filterMap Task.record? := rfl
      rw [hnone, show _ = [] from ht]
      exact ih
    | record r => exact .cons ht ih

/-- **Only visible commands reach the consumer.**  Whatever a host has a bot with the usual stages do,
and whatever it, the stages and the handlers change on the way: the observed bot does the same, and
what its parts note are the moments of the records one after the other, which say of each record that
it comes to the consumer and the added filters only behind the usual stages. -/
theorem onlyVisible_work (meaning : Meaning H M) (o : Options H M) (s : BotState H M)
    (steps : List (HostStep (Action (World H M) Failure Unit))) :
    ∃ moments,
      Blocks (OnlyVisible o) ((steps.flatMap HostStep.tasks).filterMap Task.record?) moments ∧
      BotState.notebook.Makes s moments
        ((usual meaning o).work steps : Action (BotState H M) ε Unit)
        ((usual meaning o).observed.work (steps.map (.map World.notebook.quietly))) := by
  have hact : NotesActs (H := H) (M := M) (TaskVisible o) id World.notebook.quietly :=
    fun a w => ⟨[], rfl, makes_quietly a⟩
  have hrecord : NotesRecords (A := Action (World H M) Failure Unit) (TaskVisible o)
      (usual meaning o) (usual meaning o).observed :=
    fun r s => ⟨_, onlyVisible_moments meaning o r s.world, makes_processOne_observed _ r s⟩
  obtain ⟨moments, hmoments, hmakes⟩ := makes_work (ε := ε) rfl hact hrecord steps s
  rw [HostStep.map_id, List.map_id] at hmakes
  exact ⟨moments, blocks_onlyVisible hmoments, hmakes⟩

end Bot

end Switchboard
