import Mathlib.Data.List.Forall2
import Switchboard.Proofs.Command.Lookup
import Switchboard.Proofs.Stage.Sequence
import Switchboard.Stage.Usual

/-!
# Runs side by side

Two runs, in worlds with the same commands that may do different things.  The runs are alike if they
report the same, end in related values or in the same failure, and leave related worlds.  What is put
together from alike parts is alike.

* `SameButHandlers`: worlds that differ in what their handlers are, and in nothing else.
* `Run.Alike`: runs that are alike; `Run.Alike.bind` puts them together.
* `Stage.Alike`: stages that do not care about handlers; the usual ones do not.
-/

namespace Switchboard

variable {H H₁ H₂ M W₁ W₂ ε δ α β α' β' : Type}

/-! ## Worlds -/

/-- The command without its handler. -/
def Entry.outline (e : Entry H) : Entry Unit := { e with handler := () }

/-- The worlds differ in what the handlers of their commands are, and in nothing else. -/
structure SameButHandlers (w₁ : World H₁ M) (w₂ : World H₂ M) : Prop where
  config : w₁.config = w₂.config
  settings : w₁.settings = w₂.settings
  outline : w₁.registry.outline = w₂.registry.outline
  memory : w₁.memory = w₂.memory

theorem Entries.find?_map {V V' : Type} (f : V → V') (k : Text) (es : List (Text × V)) :
    find? k (es.map fun e => (e.1, f e.2)) = (find? k es).map f := by
  induction es with
  | nil => rfl
  | cons e es ih =>
    rw [List.map_cons, find?, find?, ih]
    split <;> rfl

theorem Registry.outline_lookup (r : Registry H) (name : Text) :
    (r.lookup name).map Entry.outline = Entries.find? name r.outline :=
  (Entries.find?_map Entry.outline name r.commands.entries).symm

namespace SameButHandlers

variable {w₁ : World H₁ M} {w₂ : World H₂ M} (h : SameButHandlers w₁ w₂)

include h

theorem prefixes : w₁.prefixes = w₂.prefixes := prefixes_of_outline_eq h.settings h.outline

theorem body (text : Text) : w₁.body text = w₂.body text := by
  rw [body_eq_withoutPrefix, body_eq_withoutPrefix, h.prefixes]

theorem isCommand? (record : Record) : w₁.isCommand? record = w₂.isCommand? record := by
  rw [World.isCommand?, World.matchedPrefix?, h.prefixes]
  rfl

theorem lookup (name : Text) : (w₁.registry.lookup name).map Entry.outline =
    (w₂.registry.lookup name).map Entry.outline := by
  rw [Registry.outline_lookup, h.outline, ← Registry.outline_lookup]

end SameButHandlers

/-! ## Runs -/

/-- The runs report the same and leave worlds related by `S`, with values related by `R` or the same
failure. -/
inductive Run.Alike (S : W₁ → W₂ → Prop) (R : α → β → Prop) : Run W₁ ε α → Run W₂ ε β → Prop where
  | ok {x : α} {y : β} {w₁ : W₁} {w₂ : W₂} {log : List LogEntry} : R x y → S w₁ w₂ →
      Alike S R ⟨.ok x, w₁, log⟩ ⟨.ok y, w₂, log⟩
  | error {e : ε} {w₁ : W₁} {w₂ : W₂} {log : List LogEntry} : S w₁ w₂ →
      Alike S R ⟨.error e, w₁, log⟩ ⟨.error e, w₂, log⟩

namespace Run.Alike

variable {S : W₁ → W₂ → Prop} {R : α → β → Prop} {Q : α' → β' → Prop} {w₁ : W₁} {w₂ : W₂}

theorem world {r₁ : Run W₁ ε α} {r₂ : Run W₂ ε β} (h : Alike S R r₁ r₂) : S r₁.world r₂.world := by
  cases h with
  | ok _ hw => exact hw
  | error hw => exact hw

theorem log_eq {r₁ : Run W₁ ε α} {r₂ : Run W₂ ε β} (h : Alike S R r₁ r₂) : r₁.log = r₂.log := by
  cases h <;> rfl

theorem outcome_eq {r₁ : Run W₁ ε α} {r₂ : Run W₂ ε α} (h : Alike S Eq r₁ r₂) :
    r₁.outcome = r₂.outcome := by
  cases h with
  | ok hxy _ => rw [hxy]
  | error _ => rfl

theorem of_ends {outcome : Except ε α} {log : List LogEntry} (h : S w₁ w₂) :
    Alike S Eq ⟨outcome, w₁, log⟩ ⟨outcome, w₂, log⟩ := by
  cases outcome with
  | ok x => exact .ok rfl h
  | error e => exact .error h

/-- What was reported before does not matter. -/
theorem behind {r₁ : Run W₁ ε α} {r₂ : Run W₂ ε β} (h : Alike S R r₁ r₂) (log : List LogEntry) :
    Alike S R ⟨r₁.outcome, r₁.world, log ++ r₁.log⟩ ⟨r₂.outcome, r₂.world, log ++ r₂.log⟩ := by
  cases h with
  | ok hxy hw => exact .ok hxy hw
  | error hw => exact .error hw

protected theorem pure {x : α} {y : β} (hxy : R x y) (h : S w₁ w₂) :
    Alike S R ((pure x : Action W₁ ε α).run w₁) ((pure y : Action W₂ ε β).run w₂) :=
  .ok hxy h

protected theorem emit (e : Event) (h : S w₁ w₂) :
    Alike S Eq ((Action.emit e : Action W₁ ε Unit).run w₁)
      ((Action.emit e : Action W₂ ε Unit).run w₂) :=
  .ok rfl h

protected theorem ofExcept (r : Except ε α) (h : S w₁ w₂) :
    Alike S Eq ((Action.ofExcept r : Action W₁ ε α).run w₁)
      ((Action.ofExcept r : Action W₂ ε α).run w₂) := by
  rw [Action.run_ofExcept, Action.run_ofExcept]
  exact .of_ends h

/-- Behind alike runs, alike runs are alike as a whole. -/
protected theorem bind {a₁ : Action W₁ ε α} {a₂ : Action W₂ ε β} {f₁ : α → Action W₁ ε α'}
    {f₂ : β → Action W₂ ε β'} (h : Alike S R (a₁.run w₁) (a₂.run w₂))
    (hnext : ∀ x y w₁' w₂' log, a₁.run w₁ = ⟨.ok x, w₁', log⟩ → a₂.run w₂ = ⟨.ok y, w₂', log⟩ →
      R x y → S w₁' w₂' → Alike S Q ((f₁ x).run w₁') ((f₂ y).run w₂')) :
    Alike S Q ((a₁ >>= f₁).run w₁) ((a₂ >>= f₂).run w₂) := by
  rcases hrun₁ : a₁.run w₁ with ⟨outcome₁, w₁', log₁⟩
  rcases hrun₂ : a₂.run w₂ with ⟨outcome₂, w₂', log₂⟩
  have hall := h
  rw [hrun₁, hrun₂] at hall
  cases hall with
  | error hw =>
    rw [Action.run_bind_of_error hrun₁, Action.run_bind_of_error hrun₂]
    exact .error hw
  | @ok x y _ _ _ hxy hw =>
    rw [Action.run_bind_of_ok hrun₁, Action.run_bind_of_ok hrun₂]
    exact (hnext x y w₁' w₂' log₁ hrun₁ hrun₂ hxy hw).behind log₁

protected theorem mapError {a₁ : Action W₁ ε α} {a₂ : Action W₂ ε β} (f : ε → δ)
    (h : Alike S R (a₁.run w₁) (a₂.run w₂)) :
    Alike S R ((a₁.mapError f).run w₁) ((a₂.mapError f).run w₂) := by
  rw [Action.run_mapError, Action.run_mapError]
  generalize a₁.run w₁ = r₁ at h ⊢
  generalize a₂.run w₂ = r₂ at h ⊢
  cases h with
  | ok hxy hw => exact .ok hxy hw
  | error hw => exact .error hw

protected theorem attempt {a₁ : Action W₁ ε α} {a₂ : Action W₂ ε α}
    (h : Alike S Eq (a₁.run w₁) (a₂.run w₂)) :
    Alike S Eq ((a₁.attempt : Action W₁ δ _).run w₁) ((a₂.attempt : Action W₂ δ _).run w₂) := by
  rw [Action.run_attempt, Action.run_attempt, h.outcome_eq, h.log_eq]
  exact .ok rfl h.world

protected theorem within {a₁ : Action W₁ ε α} {a₂ : Action W₂ ε β} (b : Batch)
    (h : Alike S R (a₁.run w₁) (a₂.run w₂)) :
    Alike S R ((a₁.within b).run w₁) ((a₂.within b).run w₂) := by
  rw [Action.run_within, Action.run_within]
  generalize a₁.run w₁ = r₁ at h ⊢
  generalize a₂.run w₂ = r₂ at h ⊢
  cases h with
  | ok hxy hw => exact .ok hxy hw
  | error hw => exact .error hw

end Run.Alike

/-! ## Stages -/

/-- The stages do the same in worlds that differ in their handlers only. -/
def Stage.Alike (f₁ : Stage (World H₁ M) α β) (f₂ : Stage (World H₂ M) α β) : Prop :=
  ∀ x w₁ w₂, SameButHandlers w₁ w₂ → Run.Alike SameButHandlers Eq ((f₁ x).run w₁) ((f₂ x).run w₂)

namespace Stage.Alike

protected theorem identity :
    Stage.Alike (identity : Stage (World H₁ M) α α) (identity : Stage (World H₂ M) α α) :=
  fun _ _ _ h => .pure rfl h

protected theorem andThen {γ : Type} {first₁ : Stage (World H₁ M) α β}
    {first₂ : Stage (World H₂ M) α β} {second₁ : Stage (World H₁ M) β γ}
    {second₂ : Stage (World H₂ M) β γ} (h : first₁.Alike first₂) (h' : second₁.Alike second₂) :
    (first₁.andThen second₁).Alike (first₂.andThen second₂) := by
  intro x w₁ w₂ hw
  apply (h x w₁ w₂ hw).bind
  rintro y _ w₁' w₂' log - - rfl hw'
  cases y with
  | none => exact .pure rfl hw'
  | some y => exact h' y w₁' w₂' hw'

protected theorem guardedBy {γ : Type} {outer₁ : Stage (World H₁ M) α γ}
    {outer₂ : Stage (World H₂ M) α γ} {guard₁ : Stage (World H₁ M) α β}
    {guard₂ : Stage (World H₂ M) α β} (h : guard₁.Alike guard₂) (h' : outer₁.Alike outer₂) :
    (outer₁.guardedBy guard₁).Alike (outer₂.guardedBy guard₂) := by
  intro x w₁ w₂ hw
  apply (h x w₁ w₂ hw).bind
  rintro y _ w₁' w₂' log - - rfl hw'
  cases y with
  | none => exact .pure rfl hw'
  | some y => exact h' x w₁' w₂' hw'

protected theorem logged {f₁ : Stage (World H₁ M) α β} {f₂ : Stage (World H₂ M) α β} (name : Text)
    (h : f₁.Alike f₂) : (f₁.logged name).Alike (f₂.logged name) := by
  intro x w₁ w₂ hw
  apply (h x w₁ w₂ hw).attempt.bind
  rintro verdict _ w₁' w₂' log - - rfl hw'
  apply (Run.Alike.emit (verdictEvent name verdict) hw').bind
  rintro - - v₁ v₂ log' - - - hv
  exact .ofExcept verdict hv

/-- Chains and composites of alike stages are alike. -/
theorem linkAll {pick : α → α → α} {stages₁ : List (Stage (World H₁ M) α α)}
    {stages₂ : List (Stage (World H₂ M) α α)} (h : List.Forall₂ Stage.Alike stages₁ stages₂) :
    (linkAll pick stages₁).Alike (linkAll pick stages₂) := by
  have hfrom : ∀ {first₁ : Stage (World H₁ M) α α} {first₂ : Stage (World H₂ M) α α},
      first₁.Alike first₂ → (linkFrom pick first₁ stages₁).Alike (linkFrom pick first₂ stages₂) := by
    induction h with
    | nil => exact fun hfirst => hfirst
    | @cons f₁ f₂ rest₁ rest₂ hf _ ih =>
      intro first₁ first₂ hfirst
      refine ih fun x w₁ w₂ hw => ?_
      apply (hfirst x w₁ w₂ hw).bind
      rintro y _ w₁' w₂' log - - rfl hw'
      cases y with
      | none => exact .pure rfl hw'
      | some y => exact hf (pick x y) w₁' w₂' hw'
  exact hfrom .identity

end Stage.Alike

/-- What a stage reads of the world and gives back does not depend on handlers. -/
theorem Stage.alike_of_get {g₁ : α → World H₁ M → Option β} {g₂ : α → World H₂ M → Option β}
    (h : ∀ x w₁ w₂, SameButHandlers w₁ w₂ → g₁ x w₁ = g₂ x w₂) :
    Stage.Alike (fun x => do return g₁ x (← Action.get)) (fun x => do return g₂ x (← Action.get)) := by
  intro x w₁ w₂ hw
  have hread : Run.Alike SameButHandlers SameButHandlers
      ((Action.get : Action _ Failure _).run w₁) ((Action.get : Action _ Failure _).run w₂) :=
    .ok hw hw
  apply hread.bind
  intro v₁ v₂ w₁' w₂' log _ _ hv hw'
  exact .pure (h x v₁ v₂ hv) hw'

/-- The usual stages do not care about handlers. -/
theorem alike_usualTransformers : List.Forall₂ Stage.Alike
    (Stage.usualTransformers : List (Stage (World H₁ M) Record Record))
    (Stage.usualTransformers : List (Stage (World H₂ M) Record Record)) := by
  refine .cons (.logged _ ?_) .nil
  intro record w₁ w₂ hw
  apply (Run.Alike.ofExcept (Markup.reduce record.message) hw).bind
  rintro text _ w₁' w₂' log - - rfl hw'
  exact .pure rfl hw'

theorem alike_usualFilters : List.Forall₂ Stage.Alike
    (Stage.usualFilters : List (Stage (World H₁ M) Record Record))
    (Stage.usualFilters : List (Stage (World H₂ M) Record Record)) := by
  refine .cons (.logged _ (Stage.alike_of_get ?_)) (.cons (.logged _ (Stage.alike_of_get ?_)) .nil)
  · intro record w₁ w₂ h
    rw [h.config]
  · exact fun record w₁ w₂ h => h.isCommand? record

end Switchboard
