import Switchboard.Stage.Basic

/-!
# Stages one behind the other

A chain and a composite differ in one thing only: what the next stage gets, the output of those
before it or the input of them all.  `link` leaves that open, so that what both have in common is
said once.

* `chainAll_eq_linkAll`, `composeAll_eq_linkAll`: both are folds of `link`.
* `linkFrom_run_of_stops`: behind a veto or a failure nothing runs.
* `outcome_linkAll_eq_error_iff`: the failure is that of the first stage that fails.
-/

namespace Switchboard.Stage

variable {W α : Type}

/-! ## Links -/

/-- The second stage behind the first, on what is picked from the input and the first's output. -/
def link (pick : α → α → α) (first second : Stage W α α) : Stage W α α := fun x => do
  match ← first x with
  | none => return none
  | some y => second (pick x y)

/-- Stages one behind the other, behind one that is given. -/
def linkFrom (pick : α → α → α) (first : Stage W α α) (stages : List (Stage W α α)) :
    Stage W α α := stages.foldl (link pick) first

/-- Stages one behind the other. -/
def linkAll (pick : α → α → α) (stages : List (Stage W α α)) : Stage W α α :=
  linkFrom pick identity stages

/-- A chain picks the output. -/
theorem chainAll_eq_linkAll (stages : List (Stage W α α)) :
    chainAll stages = linkAll (fun _ y => y) stages := rfl

/-- A composite picks the input. -/
theorem composeAll_eq_linkAll (stages : List (Stage W α α)) :
    composeAll stages = linkAll (fun x _ => x) stages := rfl

/-! ## One link -/

section Link

variable {pick : α → α → α} {first second : Stage W α α} {x y : α} {w w' : W} {e : Failure}
  {log : List LogEntry}

theorem link_run_of_error (h : (first x).run w = ⟨.error e, w', log⟩) :
    (link pick first second x).run w = ⟨.error e, w', log⟩ :=
  Action.run_bind_of_error h

theorem link_run_of_none (h : (first x).run w = ⟨.ok none, w', log⟩) :
    (link pick first second x).run w = ⟨.ok none, w', log⟩ := by
  rw [link, Action.run_bind_of_ok h, Action.run_pure, List.append_nil]

theorem link_run_of_some (h : (first x).run w = ⟨.ok (some y), w', log⟩) :
    (link pick first second x).run w =
      ⟨((second (pick x y)).run w').outcome, ((second (pick x y)).run w').world,
        log ++ ((second (pick x y)).run w').log⟩ :=
  Action.run_bind_of_ok h

/-- The run yields nothing for a next stage. -/
def Stops (r : Run W Failure (Option α)) : Prop := ∀ y, r.outcome ≠ .ok (some y)

theorem link_run_of_stops (h : Stops ((first x).run w)) :
    (link pick first second x).run w = (first x).run w := by
  rcases hrun : (first x).run w with ⟨e | _ | y, w', log⟩
  · exact link_run_of_error hrun
  · exact link_run_of_none hrun
  · rw [hrun] at h
    exact absurd rfl (h y)

end Link

/-! ## Many links -/

variable {pick : α → α → α} {x : α} {w : W}

theorem linkFrom_append (first : Stage W α α) (before after : List (Stage W α α)) :
    linkFrom pick first (before ++ after) = linkFrom pick (linkFrom pick first before) after :=
  List.foldl_append

/-- **Behind a veto or a failure nothing runs.** -/
theorem linkFrom_run_of_stops {first : Stage W α α} (h : Stops ((first x).run w))
    (stages : List (Stage W α α)) :
    (linkFrom pick first stages x).run w = (first x).run w := by
  induction stages generalizing first with
  | nil => rfl
  | cons f rest ih =>
    have hlink : (link pick first f x).run w = (first x).run w := link_run_of_stops h
    rw [← hlink] at h ⊢
    exact ih h

/-- A stage fails with `e` after all before it have yielded something. -/
def FailsBehind (pick : α → α → α) (first : Stage W α α) (stages : List (Stage W α α)) (x : α)
    (w : W) (e : Failure) : Prop :=
  ∃ before f after y, stages = before ++ f :: after ∧
    ((linkFrom pick first before x).run w).outcome = .ok (some y) ∧
    ((f (pick x y)).run ((linkFrom pick first before x).run w).world).outcome = .error e

theorem FailsBehind.cons {first f : Stage W α α} {rest : List (Stage W α α)} {e : Failure}
    (h : FailsBehind pick (link pick first f) rest x w e) :
    FailsBehind pick first (f :: rest) x w e := by
  obtain ⟨before, g, after, y, rfl, hbefore, hfails⟩ := h
  exact ⟨f :: before, g, after, y, rfl, hbefore, hfails⟩

theorem outcome_linkFrom_eq_error {first : Stage W α α} {stages : List (Stage W α α)} {e : Failure}
    (h : ((linkFrom pick first stages x).run w).outcome = .error e) :
    ((first x).run w).outcome = .error e ∨ FailsBehind pick first stages x w e := by
  induction stages generalizing first with
  | nil => exact .inl h
  | cons f rest ih =>
    obtain hlink | hbehind := ih h
    · rcases hrun : (first x).run w with ⟨e' | _ | y, w', log⟩
      · rw [link_run_of_error hrun] at hlink
        exact .inl hlink
      · rw [link_run_of_none hrun] at hlink
        cases hlink
      · rw [link_run_of_some hrun] at hlink
        refine .inr ⟨[], f, rest, y, rfl, ?_, ?_⟩
        · exact congrArg Run.outcome hrun
        · rw [linkFrom, List.foldl_nil, hrun]
          exact hlink
    · exact .inr hbehind.cons

/-- The failure of a stage is that of the whole, whatever stages follow. -/
theorem FailsBehind.outcome {first : Stage W α α} {stages : List (Stage W α α)} {e : Failure}
    (h : FailsBehind pick first stages x w e) :
    ((linkFrom pick first stages x).run w).outcome = .error e := by
  obtain ⟨before, f, after, y, rfl, hbefore, hfails⟩ := h
  rcases hrun : (linkFrom pick first before x).run w with ⟨outcome, w', log⟩
  rw [hrun] at hbefore hfails
  obtain rfl : outcome = .ok (some y) := hbefore
  have hlink : ((link pick (linkFrom pick first before) f x).run w).outcome = .error e := by
    rw [link_run_of_some hrun]
    exact hfails
  have hstops : Stops ((link pick (linkFrom pick first before) f x).run w) := by
    intro z hz
    rw [hlink] at hz
    cases hz
  rw [linkFrom_append]
  exact (congrArg Run.outcome (linkFrom_run_of_stops hstops after)).trans hlink

/-- **The failure of stages is that of the first stage that fails.** -/
theorem outcome_linkAll_eq_error_iff {stages : List (Stage W α α)} {e : Failure} :
    ((linkAll pick stages x).run w).outcome = .error e ↔
      FailsBehind pick identity stages x w e := by
  constructor
  · intro h
    obtain hfirst | hbehind := outcome_linkFrom_eq_error h
    · cases hfirst
    · exact hbehind
  · exact FailsBehind.outcome

end Switchboard.Stage
