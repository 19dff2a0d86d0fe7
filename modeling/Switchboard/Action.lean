import Switchboard.Log

/-!
# Actions

An action works on a world: it may change it, may fail, and reports events.  A failure keeps the
changes and the events before it.

* `Action`: the type, a lawful monad.
* `Action.get`, `Action.set`, `Action.emit`, `Action.fail`: the elementary actions.
* `Action.attempt`, `Action.mapError`: handling failures.
* `Action.zoom`: an action on a part of a world.
-/

namespace Switchboard

/-- What an action leaves behind. -/
structure Run (W ε α : Type) where
  /-- How the action ended. -/
  outcome : Except ε α
  /-- The world after it. -/
  world : W
  /-- What was reported, in order. -/
  log : List LogEntry

/-- An action on a world that ends in a value or a failure. -/
def Action (W ε α : Type) : Type := W → Run W ε α

namespace Action

variable {W V ε δ α β : Type}

/-- What the action leaves behind in a world. -/
def run (a : Action W ε α) (w : W) : Run W ε α := a w

theorem ext {a b : Action W ε α} (h : ∀ w, a.run w = b.run w) : a = b := funext h

instance : Monad (Action W ε) where
  pure x := fun w => ⟨.ok x, w, []⟩
  bind a f := fun w =>
    match a w with
    | ⟨.error e, w', log⟩ => ⟨.error e, w', log⟩
    | ⟨.ok x, w', log⟩ =>
      let r := f x w'
      ⟨r.outcome, r.world, log ++ r.log⟩

@[simp] theorem run_pure (x : α) (w : W) : (pure x : Action W ε α).run w = ⟨.ok x, w, []⟩ := rfl

theorem run_bind (a : Action W ε α) (f : α → Action W ε β) (w : W) :
    (a >>= f).run w =
      match a.run w with
      | ⟨.error e, w', log⟩ => ⟨.error e, w', log⟩
      | ⟨.ok x, w', log⟩ => ⟨((f x).run w').outcome, ((f x).run w').world,
          log ++ ((f x).run w').log⟩ := rfl

theorem run_bind_of_ok {a : Action W ε α} {f : α → Action W ε β} {w w' : W} {x : α}
    {log : List LogEntry} (h : a.run w = ⟨.ok x, w', log⟩) :
    (a >>= f).run w =
      ⟨((f x).run w').outcome, ((f x).run w').world, log ++ ((f x).run w').log⟩ := by
  rw [run_bind, h]

theorem run_bind_of_error {a : Action W ε α} {f : α → Action W ε β} {w w' : W} {e : ε}
    {log : List LogEntry} (h : a.run w = ⟨.error e, w', log⟩) :
    (a >>= f).run w = ⟨.error e, w', log⟩ := by
  rw [run_bind, h]

private theorem map_id (a : Action W ε α) : id <$> a = a := by
  funext w
  show (match a w with
    | ⟨.error e, w', log⟩ => ⟨.error e, w', log⟩
    | ⟨.ok x, w', log⟩ => ⟨.ok x, w', log ++ []⟩ : Run W ε _) = a w
  rcases h : a w with ⟨_ | _, _, _⟩ <;> simp

private theorem bind_bind (a : Action W ε α) (f : α → Action W ε β) {γ : Type}
    (g : β → Action W ε γ) : a >>= f >>= g = a >>= fun x => f x >>= g := by
  funext w
  simp only [bind]
  rcases a w with ⟨_ | x, w', log⟩
  · rfl
  · simp only []
    rcases f x w' with ⟨_ | y, w'', log'⟩ <;> simp

instance : LawfulMonad (Action W ε) := LawfulMonad.mk' _ map_id (fun _ _ => rfl) fun a f g => bind_bind a f g

/-! ## Elementary actions -/

/-- The world as it is. -/
def get : Action W ε W := fun w => ⟨.ok w, w, []⟩

/-- Changes the world. -/
def modify (f : W → W) : Action W ε Unit := fun w => ⟨.ok (), f w, []⟩

/-- Changes the world and gives a value. -/
def modifyGet (f : W → α × W) : Action W ε α := fun w => ⟨.ok (f w).1, (f w).2, []⟩

/-- Fails. -/
def fail (e : ε) : Action W ε α := fun w => ⟨.error e, w, []⟩

/-- Reports an event. -/
def emit (e : Event) : Action W ε Unit := fun w => ⟨.ok (), w, [{ event := e }]⟩

/-- The value, or the failure. -/
def ofExcept : Except ε α → Action W ε α
  | .ok x => pure x
  | .error e => fail e

@[simp] theorem run_get (w : W) : (get : Action W ε W).run w = ⟨.ok w, w, []⟩ := rfl

@[simp] theorem run_modify (f : W → W) (w : W) :
    (modify f : Action W ε Unit).run w = ⟨.ok (), f w, []⟩ := rfl

@[simp] theorem run_fail (e : ε) (w : W) : (fail e : Action W ε α).run w = ⟨.error e, w, []⟩ := rfl

@[simp] theorem run_emit (e : Event) (w : W) :
    (emit e : Action W ε Unit).run w = ⟨.ok (), w, [{ event := e }]⟩ := rfl

@[simp] theorem run_modifyGet (f : W → α × W) (w : W) :
    (modifyGet f : Action W ε α).run w = ⟨.ok (f w).1, (f w).2, []⟩ := rfl

@[simp] theorem run_ofExcept (r : Except ε α) (w : W) :
    (ofExcept r : Action W ε α).run w = ⟨r, w, []⟩ := by cases r <;> rfl

/-! ## Failures -/

/-- The action with its failure turned into another. -/
def mapError (f : ε → δ) (a : Action W ε α) : Action W δ α := fun w =>
  let r := a w
  ⟨r.outcome.mapError f, r.world, r.log⟩

/-- The action with its end as a value; it does not fail. -/
def attempt (a : Action W ε α) : Action W δ (Except ε α) := fun w =>
  let r := a w
  ⟨.ok r.outcome, r.world, r.log⟩

@[simp] theorem run_mapError (f : ε → δ) (a : Action W ε α) (w : W) :
    (a.mapError f).run w = ⟨(a.run w).outcome.mapError f, (a.run w).world, (a.run w).log⟩ := rfl

@[simp] theorem run_attempt (a : Action W ε α) (w : W) :
    (a.attempt : Action W δ _).run w = ⟨.ok (a.run w).outcome, (a.run w).world, (a.run w).log⟩ := rfl

theorem run_mapError_of_ok {a : Action W ε α} {w w' : W} {x : α} {log : List LogEntry} (f : ε → δ)
    (h : a.run w = ⟨.ok x, w', log⟩) : (a.mapError f).run w = ⟨.ok x, w', log⟩ := by
  rw [run_mapError, h]
  rfl

theorem run_mapError_of_error {a : Action W ε α} {w w' : W} {e : ε} {log : List LogEntry}
    (f : ε → δ) (h : a.run w = ⟨.error e, w', log⟩) :
    (a.mapError f).run w = ⟨.error (f e), w', log⟩ := by
  rw [run_mapError, h]
  rfl

theorem mapError_pure (f : ε → δ) (x : α) : (pure x : Action W ε α).mapError f = pure x := rfl

theorem mapError_bind (f : ε → δ) (a : Action W ε α) (g : α → Action W ε β) :
    (a >>= g).mapError f = a.mapError f >>= fun x => (g x).mapError f := by
  apply ext
  intro w
  rcases hrun : a.run w with ⟨e | x, w', log⟩
  · rw [run_mapError_of_error f (run_bind_of_error hrun),
      run_bind_of_error (run_mapError_of_error f hrun)]
  · rw [run_mapError, run_bind_of_ok hrun, run_bind_of_ok (run_mapError_of_ok f hrun)]
    rfl

/-! ## Parts of worlds and batches -/

/-- The action on a part of a larger world. -/
def zoom (part : W → V) (put : V → W → W) (a : Action V ε α) : Action W ε α := fun w =>
  let r := a (part w)
  ⟨r.outcome, put r.world w, r.log⟩

/-- The action as part of a batch: what it reports is reported within the batch. -/
def within (b : Batch) (a : Action W ε α) : Action W ε α := fun w =>
  let r := a w
  ⟨r.outcome, r.world, r.log.map fun e => { e with batch := some b }⟩

@[simp] theorem run_zoom (part : W → V) (put : V → W → W) (a : Action V ε α) (w : W) :
    (a.zoom part put).run w =
      ⟨(a.run (part w)).outcome, put (a.run (part w)).world w, (a.run (part w)).log⟩ := rfl

@[simp] theorem run_within (b : Batch) (a : Action W ε α) (w : W) :
    (a.within b).run w = ⟨(a.run w).outcome, (a.run w).world,
      (a.run w).log.map fun e => { e with batch := some b }⟩ := rfl

end Action

end Switchboard
