import Switchboard.Proofs.Stage.Tree
import Switchboard.Proofs.Stage.Watch

/-!
# Notes of one run

`Notebook.Watches` speaks of all runs of an action at once.  Here the notes are those of the run from
one world, so that they may depend on how the run goes on, and a note may hold the world in which it
is made.

* `Notebook.quietly`, `Notebook.noticing`: actions beside a notebook.
* `Notebook.Makes`: the notes of the run from a world.
* `Notebook.trail`, `makes_inTurn`: the notes of stages one after the other.
-/

namespace Switchboard

namespace Notebook

variable {W N W' ε δ α β : Type}

/-- The action, which knows nothing of the notes and makes none. -/
def quietly (b : Notebook W N W') (a : Action W ε α) : Action W' ε α :=
  a.zoom b.world fun w w' => b.put w (b.notes w')

/-- The action, of which a note is made in the world that it starts in. -/
def noticing (b : Notebook W N W') (note : W → N) (a : Action W ε α) : Action W' ε α := do
  let w' ← Action.get
  b.noting (note (b.world w')) a

/-- From a world, the second action does what the first one does, and makes notes besides. -/
def Makes (b : Notebook W N W') (w : W) (notes : List N) (a : Action W ε α) (a' : Action W' ε α) :
    Prop :=
  ∀ seen, a'.run (b.put w seen) =
    ⟨(a.run w).outcome, b.put (a.run w).world (seen ++ notes), (a.run w).log⟩

variable {b : Notebook W N W'} {w : W}

theorem makes_quietly (a : Action W ε α) : b.Makes w [] a (b.quietly a) := by
  intro seen
  rw [quietly, Action.run_zoom, b.world_put, b.notes_put, List.append_nil]

theorem makes_noticing (note : W → N) (a : Action W ε α) :
    b.Makes w [note w] a (b.noticing note a) := by
  intro seen
  have hrun : (b.noticing note a).run (b.put w seen) =
      (b.noting (note (b.world (b.put w seen))) a).run (b.put w seen) := rfl
  rw [hrun, b.world_put]
  exact watches_noting (note w) a w seen

namespace Makes

variable {notes notes' : List N} {a : Action W ε α} {a' : Action W' ε α}

theorem of_run {outcome : Except ε α} {w₁ : W} {log : List LogEntry}
    (h : a.run w = ⟨outcome, w₁, log⟩)
    (h' : ∀ seen, a'.run (b.put w seen) = ⟨outcome, b.put w₁ (seen ++ notes), log⟩) :
    b.Makes w notes a a' := by
  intro seen
  rw [h' seen, h]

theorem run_eq (h : b.Makes w notes a a') {outcome : Except ε α} {w₁ : W} {log : List LogEntry}
    (hrun : a.run w = ⟨outcome, w₁, log⟩) (seen : List N) :
    a'.run (b.put w seen) = ⟨outcome, b.put w₁ (seen ++ notes), log⟩ := by
  have hseen := h seen
  rw [hrun] at hseen
  exact hseen

protected theorem pure (x : α) : b.Makes w [] (pure x : Action W ε α) (pure x) := by
  intro seen
  rw [Action.run_pure, Action.run_pure, List.append_nil]

protected theorem emit (e : Event) :
    b.Makes w [] (Action.emit e : Action W ε Unit) (Action.emit e) := by
  intro seen
  rw [Action.run_emit, Action.run_emit, List.append_nil]

protected theorem ofExcept (r : Except ε α) :
    b.Makes w [] (Action.ofExcept r : Action W ε α) (Action.ofExcept r) := by
  intro seen
  rw [Action.run_ofExcept, Action.run_ofExcept, List.append_nil]

theorem bind_of_error {f : α → Action W ε β} {f' : α → Action W' ε β} (h : b.Makes w notes a a')
    {e : ε} {w₁ : W} {log : List LogEntry} (hrun : a.run w = ⟨.error e, w₁, log⟩) :
    b.Makes w notes (a >>= f) (a' >>= f') :=
  of_run (Action.run_bind_of_error hrun) fun seen =>
    Action.run_bind_of_error (h.run_eq hrun seen)

theorem bind_of_ok {f : α → Action W ε β} {f' : α → Action W' ε β} (h : b.Makes w notes a a')
    {x : α} {w₁ : W} {log : List LogEntry} (hrun : a.run w = ⟨.ok x, w₁, log⟩)
    (hnext : b.Makes w₁ notes' (f x) (f' x)) :
    b.Makes w (notes ++ notes') (a >>= f) (a' >>= f') := by
  intro seen
  rw [Action.run_bind_of_ok (h.run_eq hrun seen), Action.run_bind_of_ok hrun,
    hnext (seen ++ notes), List.append_assoc]

/-- What comes after need not make notes. -/
theorem bind_quiet {f : α → Action W ε β} {f' : α → Action W' ε β} (h : b.Makes w notes a a')
    {x : α} {w₁ : W} {log : List LogEntry} (hrun : a.run w = ⟨.ok x, w₁, log⟩)
    (hnext : b.Makes w₁ [] (f x) (f' x)) : b.Makes w notes (a >>= f) (a' >>= f') := by
  have hboth := h.bind_of_ok hrun hnext
  rw [List.append_nil] at hboth
  exact hboth

protected theorem mapError (f : ε → δ) (h : b.Makes w notes a a') :
    b.Makes w notes (a.mapError f) (a'.mapError f) := by
  intro seen
  rw [Action.run_mapError, h seen]
  rfl

protected theorem attempt (h : b.Makes w notes a a') :
    b.Makes w notes (a.attempt : Action W δ _) a'.attempt := by
  intro seen
  rw [Action.run_attempt, h seen]
  rfl

protected theorem within (batch : Batch) (h : b.Makes w notes a a') :
    b.Makes w notes (a.within batch) (a'.within batch) := by
  intro seen
  rw [Action.run_within, h seen]
  rfl

end Makes

/-! ## Stages one after the other -/

open Stage

/-- The notes of stages one after the other, of which each makes one where it stands. -/
def trail (pick : α → α) (mark : Nat → α → W → N) : List (Stage W α α) → α → W → List N
  | [], _, _ => []
  | f :: rest, y, w => mark 0 (pick y) w ::
    match (f (pick y)).run w with
    | ⟨.ok (some z), w', _⟩ => trail pick (fun i => mark (i + 1)) rest z w'
    | _ => []

variable {pick : α → α} {mark : Nat → α → W → N} {f : Stage W α α} {rest : List (Stage W α α)}
  {y z : α} {w' : W} {log : List LogEntry}

theorem trail_cons_of_some (h : (f (pick y)).run w = ⟨.ok (some z), w', log⟩) :
    trail pick mark (f :: rest) y w =
      mark 0 (pick y) w :: trail pick (fun i => mark (i + 1)) rest z w' := by
  rw [trail, h]

theorem trail_cons_of_stops (h : Stops ((f (pick y)).run w)) :
    trail pick mark (f :: rest) y w = [mark 0 (pick y) w] := by
  obtain ⟨e, w', log, hrun⟩ | ⟨w', log, hrun⟩ := h.eq_error_or_none <;> rw [trail, hrun]

/-- Every note is made at a place. -/
theorem exists_of_mem_trail {stages : List (Stage W α α)} {note : N}
    (h : note ∈ trail pick mark stages y w) : ∃ i z w', note = mark i (pick z) w' := by
  induction stages generalizing mark y w with
  | nil => cases h
  | cons f rest ih =>
    obtain hstops | ⟨z, w', log, hrun⟩ := stops_or_yields ((f (pick y)).run w)
    · rw [trail_cons_of_stops hstops] at h
      exact ⟨0, y, w, List.mem_singleton.mp h⟩
    · rw [trail_cons_of_some hrun] at h
      obtain h | h := List.mem_cons.mp h
      · exact ⟨0, y, w, h⟩
      · obtain ⟨i, z', w'', hnote⟩ := ih h
        exact ⟨i + 1, z', w'', hnote⟩

theorem Makes.onward {notes notes' : List N} {a : Action W Failure (Option α)}
    {a' : Action W' Failure (Option α)} {next : α → Action W Failure (Option β)}
    {next' : α → Action W' Failure (Option β)} (h : b.Makes w notes a a')
    (hrun : a.run w = ⟨.ok (some y), w', log⟩) (hnext : b.Makes w' notes' (next y) (next' y)) :
    b.Makes w (notes ++ notes') (onward a next) (onward a' next') :=
  h.bind_of_ok hrun hnext

theorem Makes.onward_of_stops {notes : List N} {a : Action W Failure (Option α)}
    {a' : Action W' Failure (Option α)} (next : α → Action W Failure (Option β))
    (next' : α → Action W' Failure (Option β)) (h : b.Makes w notes a a')
    (hstops : Stops (a.run w)) :
    b.Makes w notes (Stage.onward a next) (Stage.onward a' next') := by
  obtain ⟨e, w', log, hrun⟩ | ⟨w', log, hrun⟩ := hstops.eq_error_or_none
  · exact h.bind_of_error hrun
  · exact h.bind_quiet hrun (.pure none)

/-- **Stages that note where they stand do what they did without**, and leave a trail. -/
theorem makes_inTurn (mark : Nat → α → W → N) (stages : List (Stage W α α)) (y : α) (w : W) :
    b.Makes w (trail pick mark stages y w) (inTurn pick stages y)
      (inTurn pick (stages.mapIdx fun i f y => b.noticing (mark i y) (f y)) y) := by
  induction stages generalizing mark y w with
  | nil => exact .pure (some y)
  | cons f rest ih =>
    have hnote := makes_noticing (b := b) (w := w) (mark 0 (pick y)) (f (pick y))
    rw [List.mapIdx_cons]
    obtain hstops | ⟨z, w', log, hrun⟩ := stops_or_yields ((f (pick y)).run w)
    · rw [trail_cons_of_stops hstops]
      exact hnote.onward_of_stops _ _ hstops
    · rw [trail_cons_of_some hrun]
      exact hnote.onward hrun (ih (fun i => mark (i + 1)) z w')

/-- A trail goes from place to place, and to the end if the stages yield something. -/
theorem map_trail {γ : Type} (g : N → γ) (pick : α → α) (mark : Nat → α → W → N)
    (place : Nat → γ) (hmark : ∀ i y w, g (mark i y w) = place i) (stages : List (Stage W α α))
    (y : α) (w : W) :
    (trail pick mark stages y w).map g <+: (List.range stages.length).map place ∧
      ((∃ z, ((inTurn pick stages y).run w).outcome = .ok (some z)) →
        (trail pick mark stages y w).map g = (List.range stages.length).map place) := by
  -- behind the first stage, marks and places are those of the next indices
  induction stages generalizing mark place y w with
  | nil => exact ⟨List.prefix_refl [], fun _ => rfl⟩
  | cons f rest ih =>
    have hplaces : (List.range (f :: rest).length).map place =
        place 0 :: (List.range rest.length).map fun i => place (i + 1) := by
      rw [List.length_cons, List.range_succ_eq_map, List.map_cons, List.map_map]
      rfl
    have hturn : inTurn pick (f :: rest) y = Stage.onward (f (pick y)) (inTurn pick rest) := rfl
    rw [hplaces, hturn]
    obtain hstops | ⟨z, w', log, hrun⟩ := stops_or_yields ((f (pick y)).run w)
    · rw [trail_cons_of_stops hstops, List.map_singleton, hmark, onward_run_of_stops _ hstops]
      refine ⟨List.cons_prefix_cons.mpr ⟨rfl, List.nil_prefix⟩, ?_⟩
      rintro ⟨z, hz⟩
      exact absurd hz (stops_halted _ z)
    · obtain ⟨hbegins, hall⟩ := ih (fun i => mark (i + 1)) (fun i => place (i + 1))
        (fun i => hmark (i + 1)) z w'
      rw [trail_cons_of_some hrun, List.map_cons, hmark, onward_run_of_some hrun]
      exact ⟨List.cons_prefix_cons.mpr ⟨rfl, hbegins⟩, fun h => congrArg _ (hall h)⟩

end Notebook

end Switchboard
