import Switchboard.Proofs.Bot.Answer
import Switchboard.Proofs.Stage.Watch

/-!
# Watched bots

A bot is watched by noting, beside its memory, which of its parts gets which input.  The parts do
not see the notes, so a watched bot does what it does unwatched, and the notes say what they see.

* `Bot.watched`: the watched bot.
* `Bot.sightings`: what the parts of a bot see of one record.
* `Bot.inputsOf_consumer_sightings`: the consumer sees what is accepted, and nothing else.
* `Bot.inputsOf_entrance_sightings`: every record comes to the first part.
* `Bot.watches_processOne`: a watched bot does the same, and notes just that.
-/

namespace Switchboard

variable {H M N ε α : Type}

/-- A part of a bot; stages are told apart by their places. -/
inductive Part where
  | transformer (index : Nat)
  | filter (index : Nat)
  | consumer
  deriving DecidableEq

/-- A part of a bot gets an input. -/
structure Sighting where
  part : Part
  input : Record
  deriving DecidableEq

/-- The inputs of a part among what is seen, in order. -/
def inputsOf (part : Part) (seen : List Sighting) : List Record :=
  seen.filterMap fun sighting => if sighting.part = part then some sighting.input else none

@[simp] theorem inputsOf_append (part : Part) (seen seen' : List Sighting) :
    inputsOf part (seen ++ seen') = inputsOf part seen ++ inputsOf part seen' :=
  List.filterMap_append

theorem inputsOf_cons_self (part : Part) (input : Record) (seen : List Sighting) :
    inputsOf part (⟨part, input⟩ :: seen) = input :: inputsOf part seen :=
  List.filterMap_cons_some (if_pos rfl)

theorem inputsOf_eq_nil {part : Part} {seen : List Sighting}
    (h : ∀ sighting ∈ seen, sighting.part ≠ part) : inputsOf part seen = [] := by
  rw [inputsOf, List.filterMap_eq_nil_iff]
  intro sighting hmem
  exact if_neg (h sighting hmem)

/-! ## Notes beside the memory -/

/-- Notes beside the memory of a world. -/
def World.notebook : Notebook (World H M) N (World H (M × List N)) where
  put w seen := { w with memory := (w.memory, seen) }
  world w := { w with memory := w.memory.1 }
  notes w := w.memory.2
  world_put _ _ := rfl
  notes_put _ _ := rfl

/-- Notes beside the memory of a bot's world. -/
def BotState.notebook : Notebook (BotState H M) N (BotState H (M × List N)) where
  put s seen := { s with world := World.notebook.put s.world seen }
  world s := { s with world := World.notebook.world s.world }
  notes s := World.notebook.notes s.world
  world_put _ _ := rfl
  notes_put _ _ := rfl

/-- The state of a watched bot: the state of the bot and what has been seen. -/
abbrev BotState.watching (s : BotState H M) (seen : List Sighting) :
    BotState H (M × List Sighting) := BotState.notebook.put s seen

namespace Bot

open Stage Notebook

/-- The bot, of which every stage and the consumer note their inputs. -/
def watched (bot : Bot H M) : Bot H (M × List Sighting) where
  name := bot.name
  transformers := bot.transformers.mapIdx fun i f record =>
    World.notebook.noting ⟨.transformer i, record⟩ (f record)
  filters := bot.filters.mapIdx fun i f record =>
    World.notebook.noting ⟨.filter i, record⟩ (f record)
  consumer record := World.notebook.noting ⟨.consumer, record⟩ (bot.consumer record)

/-! ## What is seen -/

/-- What the transformers see of a record. -/
def transformerSightings (bot : Bot H M) (record : Record) (w : World H M) : List Sighting :=
  sights (fun _ y => y) record w (fun i => Sighting.mk (.transformer i)) identity bot.transformers

/-- What the filters see of a record, if the transformers yield one. -/
def filterSightings (bot : Bot H M) (record : Record) (w : World H M) : List Sighting :=
  match ((bot.transform record).run w).outcome with
  | .ok (some normalized) =>
    sights (fun x _ => x) normalized ((bot.transform record).run w).world
      (fun i => Sighting.mk (.filter i)) identity bot.filters
  | _ => []

/-- What the consumer sees of a record, if the record is accepted. -/
def consumerSightings (bot : Bot H M) (record : Record) (w : World H M) : List Sighting :=
  match ((bot.accept record).run w).outcome with
  | .ok (some normalized) => [⟨.consumer, normalized⟩]
  | _ => []

/-- What the parts of a bot see of a record, in order. -/
def sightings (bot : Bot H M) (record : Record) (w : World H M) : List Sighting :=
  bot.transformerSightings record w ++ bot.filterSightings record w ++
    bot.consumerSightings record w

section Sightings

variable {bot : Bot H M} {record : Record} {w : World H M} {part : Part}

theorem inputsOf_transformerSightings (h : ∀ i, .transformer i ≠ part) :
    inputsOf part (bot.transformerSightings record w) = [] := by
  refine inputsOf_eq_nil fun sighting hmem => ?_
  obtain ⟨i, input, rfl⟩ := exists_of_mem_sights hmem
  exact h i

theorem inputsOf_filterSightings (h : ∀ i, .filter i ≠ part) :
    inputsOf part (bot.filterSightings record w) = [] := by
  refine inputsOf_eq_nil fun sighting hmem => ?_
  rw [filterSightings] at hmem
  split at hmem
  · obtain ⟨i, input, rfl⟩ := exists_of_mem_sights hmem
    exact h i
  · cases hmem

theorem inputsOf_consumerSightings (h : .consumer ≠ part) :
    inputsOf part (bot.consumerSightings record w) = [] := by
  refine inputsOf_eq_nil fun sighting hmem => ?_
  rw [consumerSightings] at hmem
  split at hmem
  · rw [List.mem_singleton.mp hmem]
    exact h
  · cases hmem

theorem inputsOf_transformer_sightings (i : Nat) :
    inputsOf (.transformer i) (bot.sightings record w) =
      inputsOf (.transformer i) (bot.transformerSightings record w) := by
  rw [sightings, inputsOf_append, inputsOf_append, inputsOf_filterSightings (by simp),
    inputsOf_consumerSightings (by simp), List.append_nil, List.append_nil]

theorem inputsOf_filter_sightings (i : Nat) :
    inputsOf (.filter i) (bot.sightings record w) =
      inputsOf (.filter i) (bot.filterSightings record w) := by
  rw [sightings, inputsOf_append, inputsOf_append, inputsOf_transformerSightings (by simp),
    inputsOf_consumerSightings (by simp), List.nil_append, List.append_nil]

/-- **The consumer sees the record that is accepted**, once, and no other. -/
theorem inputsOf_consumer_sightings :
    inputsOf .consumer (bot.sightings record w) =
      match ((bot.accept record).run w).outcome with
      | .ok (some normalized) => [normalized]
      | _ => [] := by
  rw [sightings, inputsOf_append, inputsOf_append, inputsOf_transformerSightings (by simp),
    inputsOf_filterSightings (by simp), consumerSightings]
  split <;> rfl

end Sightings

/-! ## Arrivals -/

/-- The part that every record comes to first. -/
def entrance (bot : Bot H M) : Part :=
  match bot.transformers, bot.filters with
  | _ :: _, _ => .transformer 0
  | [], _ :: _ => .filter 0
  | [], [] => .consumer

/-- The first stage of a list gets just the input. -/
theorem inputsOf_sights_identity_cons {pick : Record → Record → Record} (place : Nat → Part)
    (hplace : ∀ i, place (i + 1) ≠ place 0) (record : Record) (w : World H M)
    (f : Stage (World H M) Record Record) (rest : List (Stage (World H M) Record Record)) :
    inputsOf (place 0)
      (sights pick record w (fun i => Sighting.mk (place i)) identity (f :: rest)) =
        [pick record record] := by
  rw [sights_identity_cons, inputsOf_cons_self, inputsOf_eq_nil]
  intro sighting h
  obtain ⟨i, input, rfl⟩ := exists_of_mem_sights h
  exact hplace i

/-- **Every record comes to the entrance once**, whatever becomes of it. -/
theorem inputsOf_entrance_sightings (bot : Bot H M) (record : Record) (w : World H M) :
    inputsOf bot.entrance (bot.sightings record w) = [record] := by
  cases htransformers : bot.transformers with
  | cons f rest =>
    have hentrance : bot.entrance = .transformer 0 := by simp only [entrance, htransformers]
    rw [hentrance, inputsOf_transformer_sightings, transformerSightings, htransformers]
    exact inputsOf_sights_identity_cons .transformer (by simp) record w f rest
  | nil =>
    have htransform : (bot.transform record).run w = ⟨.ok (some record), w, []⟩ := by
      rw [transform, htransformers]
      rfl
    cases hfilters : bot.filters with
    | cons f rest =>
      have hentrance : bot.entrance = .filter 0 := by simp only [entrance, htransformers, hfilters]
      rw [hentrance, inputsOf_filter_sightings, filterSightings, htransform, hfilters]
      exact inputsOf_sights_identity_cons .filter (by simp) record w f rest
    | nil =>
      have hentrance : bot.entrance = .consumer := by simp only [entrance, htransformers, hfilters]
      have hfilter : (bot.filter record).run w = ⟨.ok (some record), w, []⟩ := by
        rw [filter, hfilters]
        rfl
      rw [hentrance, inputsOf_consumer_sightings, accept_run, htransform]
      simp only [hfilter]

/-! ## Watching changes nothing -/

theorem watches_accept (bot : Bot H M) (record : Record) :
    World.notebook.Watches
      (fun w => bot.transformerSightings record w ++ bot.filterSightings record w)
      (bot.accept record) (bot.watched.accept record) := by
  have htransform : World.notebook.Watches (bot.transformerSightings record)
      (bot.transform record) (bot.watched.transform record) :=
    watches_linkAll (fun i => Sighting.mk (.transformer i)) bot.transformers
  have hfilter (normalized : Record) : World.notebook.Watches
      (fun w => sights (fun x _ => x) normalized w (fun i => Sighting.mk (.filter i)) identity
        bot.filters)
      (identity.guardedBy bot.filter normalized)
      (identity.guardedBy bot.watched.filter normalized) := by
    have hguard : World.notebook.Watches
        (fun w => sights (fun x _ => x) normalized w (fun i => Sighting.mk (.filter i)) identity
          bot.filters)
        (bot.filter normalized) (bot.watched.filter normalized) :=
      watches_linkAll (fun i => Sighting.mk (.filter i)) bot.filters
    refine (hguard.link (fun x _ => x) fun y => Watches.pure (some y)).congr fun w => ?_
    split <;> exact List.append_nil _
  refine (htransform.link (fun _ y => y) hfilter).congr fun w => ?_
  rw [filterSightings]
  rcases ((bot.transform record).run w).outcome with e | _ | y <;> rfl

theorem watches_answer (bot : Bot H M) (record : Record) :
    World.notebook.Watches (bot.sightings record) (bot.answer record)
      (bot.watched.answer record) := by
  intro w seen
  have haccept := bot.watches_accept record w seen
  rw [answer_run, answer_run, sightings, consumerSightings]
  rcases hrun : (bot.accept record).run w with ⟨e | _ | normalized, w', log⟩ <;>
    rw [hrun] at haccept <;> rw [haccept]
  · simp only [List.append_nil]
  · simp only [List.append_nil]
  · have hconsumer := watches_noting (b := World.notebook) ⟨.consumer, normalized⟩
      (bot.consumer normalized) w'
      (seen ++ (bot.transformerSightings record w ++ bot.filterSightings record w))
    rcases hrun' : (bot.consumer normalized).run w' with ⟨e | answer, w'', log'⟩ <;>
      rw [hrun'] at hconsumer <;> simp only [watched, hconsumer, hrun', List.append_assoc]

/-- **A watched bot handles a record as it does unwatched**, and notes what its parts see. -/
theorem watches_processOne (bot : Bot H M) (record : Record) :
    BotState.notebook.Watches (fun s => bot.sightings record s.world) (bot.processOne record)
      (bot.watched.processOne record) := by
  intro s seen
  have hanswer := bot.watches_answer record s.world seen
  have hworld : (BotState.notebook.put s seen).world = World.notebook.put s.world seen := rfl
  rw [processOne_run, processOne_run, hworld, hanswer]
  rcases (bot.answer record).run s.world with ⟨e | _ | answer, w, log⟩ <;> rfl

end Bot

end Switchboard
