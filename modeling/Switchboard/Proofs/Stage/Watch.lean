import Switchboard.Proofs.Stage.Sequence

/-!
# Watching actions

To speak of what a stage sees, its inputs are noted beside the world, where the stage does not see
the notes.  An action that watches another does the same and notes something besides.

* `Notebook`: a way to keep notes beside a world.
* `Notebook.Watches`: one action watches another, and what it notes.
* `Notebook.watches_linkAll`: stages of which each notes its input.
-/

namespace Switchboard

/-! ## Notebooks -/

/-- A way to keep notes of type `N` beside worlds of type `W`. -/
structure Notebook (W N W' : Type) where
  put : W → List N → W'
  world : W' → W
  notes : W' → List N
  world_put : ∀ w seen, world (put w seen) = w
  notes_put : ∀ w seen, notes (put w seen) = seen

namespace Notebook

variable {W N W' ε α : Type} {b : Notebook W N W'}

/-- The action, which knows nothing of the note that is made of it. -/
def noting (b : Notebook W N W') (note : N) (a : Action W ε α) : Action W' ε α :=
  a.zoom b.world fun w w' => b.put w (b.notes w' ++ [note])

/-- The second action does what the first one does, and besides makes the notes of the world that it
starts in. -/
def Watches (b : Notebook W N W') (notes : W → List N) (a : Action W ε α) (a' : Action W' ε α) :
    Prop :=
  ∀ w seen, a'.run (b.put w seen) =
    ⟨(a.run w).outcome, b.put (a.run w).world (seen ++ notes w), (a.run w).log⟩

theorem watches_noting (note : N) (a : Action W ε α) :
    b.Watches (fun _ => [note]) a (b.noting note a) := by
  intro w seen
  rw [noting, Action.run_zoom, b.world_put, b.notes_put]

namespace Watches

variable {notes : W → List N} {a : Action W ε α} {a' : Action W' ε α}

theorem congr {notes' : W → List N} (h : b.Watches notes a a') (hnotes : ∀ w, notes w = notes' w) :
    b.Watches notes' a a' := by
  intro w seen
  rw [h w seen, hnotes]

protected theorem pure (x : α) : b.Watches (fun _ => []) (pure x : Action W ε α) (pure x) := by
  intro w seen
  rw [Action.run_pure, Action.run_pure, List.append_nil]

end Watches

/-! ## Stages one behind the other -/

open Stage

variable {pick : α → α → α} {x : α}

/-- The notes of stages that each note their input, behind a stage whose run is known: one gets an
input if those before it yield something. -/
def sights (pick : α → α → α) (x : α) (w : W) (mark : Nat → α → N) :
    Stage W α α → List (Stage W α α) → List N
  | _, [] => []
  | first, f :: rest =>
    (match ((first x).run w).outcome with
      | .ok (some y) => [mark 0 (pick x y)]
      | _ => []) ++ sights pick x w (fun i => mark (i + 1)) (link pick first f) rest

/-- The first of some stages gets the input. -/
theorem sights_identity_cons (w : W) (mark : Nat → α → N) (f : Stage W α α)
    (rest : List (Stage W α α)) :
    sights pick x w mark identity (f :: rest) =
      mark 0 (pick x x) ::
        sights pick x w (fun i => mark (i + 1)) (Stage.link pick identity f) rest := rfl

/-- Every note is made at a place. -/
theorem exists_of_mem_sights {w : W} {mark : Nat → α → N} {first : Stage W α α}
    {stages : List (Stage W α α)} {note : N} (h : note ∈ sights pick x w mark first stages) :
    ∃ i y, note = mark i y := by
  induction stages generalizing mark first with
  | nil => cases h
  | cons f rest ih =>
    rw [sights] at h
    obtain hfirst | hrest := List.mem_append.mp h
    · split at hfirst
      · exact ⟨0, _, List.mem_singleton.mp hfirst⟩
      · cases hfirst
    · obtain ⟨i, y, hnote⟩ := ih hrest
      exact ⟨i + 1, y, hnote⟩

/-- The notes along a link: those of the second stage follow if the first yields something. -/
theorem Watches.link {notes : W → List N} {sight : α → W → List N} {first second : Stage W α α}
    {first' second' : Stage W' α α} (pick : α → α → α) (h : b.Watches notes (first x) (first' x))
    (hsecond : ∀ y, b.Watches (sight y) (second y) (second' y)) :
    b.Watches (fun w => notes w ++ match ((first x).run w).outcome with
      | .ok (some y) => sight (pick x y) ((first x).run w).world
      | _ => []) (Stage.link pick first second x) (Stage.link pick first' second' x) := by
  intro w seen
  have hrun' := h w seen
  rcases hrun : (first x).run w with ⟨e | _ | y, w', log⟩ <;> rw [hrun] at hrun'
  · rw [link_run_of_error hrun', link_run_of_error hrun]
    simp only [hrun, List.append_nil]
  · rw [link_run_of_none hrun', link_run_of_none hrun]
    simp only [hrun, List.append_nil]
  · rw [link_run_of_some hrun', link_run_of_some hrun, hsecond (pick x y) w' (seen ++ notes w)]
    simp only [hrun, List.append_assoc]

/-- Stages that note their inputs watch the stages that they are. -/
theorem Watches.linkFrom {notes : W → List N} {first : Stage W α α} {first' : Stage W' α α}
    (h : b.Watches notes (first x) (first' x)) (mark : Nat → α → N) (stages : List (Stage W α α)) :
    b.Watches (fun w => notes w ++ sights pick x w mark first stages)
      (Stage.linkFrom pick first stages x)
      (Stage.linkFrom pick first' (stages.mapIdx fun i f y => b.noting (mark i y) (f y)) x) := by
  induction stages generalizing first first' notes mark with
  | nil => exact h.congr fun w => (List.append_nil _).symm
  | cons f rest ih =>
    -- the first stage joins those in front, and the places of the rest move up by one
    rw [List.mapIdx_cons]
    have hlink := h.link pick fun y => watches_noting (b := b) (mark 0 y) (f y)
    exact (ih hlink fun i => mark (i + 1)).congr fun w => List.append_assoc _ _ _

/-- **Stages of which each notes its input do what they did without.** -/
theorem watches_linkAll (mark : Nat → α → N) (stages : List (Stage W α α)) :
    b.Watches (fun w => sights pick x w mark identity stages) (linkAll pick stages x)
      (linkAll pick (stages.mapIdx fun i f y => b.noting (mark i y) (f y)) x) := by
  have hidentity : b.Watches (fun _ => []) ((identity : Stage W α α) x)
      ((identity : Stage W' α α) x) := .pure (some x)
  exact (hidentity.linkFrom mark stages).congr fun w => List.nil_append _

end Notebook

end Switchboard
