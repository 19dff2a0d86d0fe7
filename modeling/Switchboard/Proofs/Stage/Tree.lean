import Switchboard.Proofs.Stage.Sequence
import Switchboard.Stage.Tree

/-!
# Evaluation of trees of stages

What a leaf of a tree of stages gets depends on where it stands: behind a guard it gets what the
guard got, in a chain it gets what the stage before it made.

* `Tree`: how stages of any types are put together.
* `Tree.Evaluates`: the visits to leaves that an application of a tree consists of.
* `Tree.evaluates_iff`: an application is its only evaluation.
* `run_ofStageTree`: trees of stages of one type are a case.
-/

namespace Switchboard.Stage

variable {W α β γ : Type}

/-! ## Trees -/

mutual

/-- Stages put together from leaves of any types. -/
inductive Tree (W : Type) : Type → Type → Type 1
  | leaf {α β : Type} (stage : Stage W α β) : Tree W α β
  | identity {α : Type} : Tree W α α
  | absent {α β : Type} : Tree W α β
  | present {α β : Type} (stage : Tree W α β) : Tree W α β
  | boxed {α β : Type} (stage : Tree W α β) : Tree W α β
  | chain {α β γ : Type} (first : Tree W α β) (second : Tree W β γ) : Tree W α γ
  | guarded {α β γ : Type} (outer : Tree W α γ) (guard : Tree W α β) : Tree W α γ
  | composeAll {α : Type} (stages : Trees W α) : Tree W α α
  | chainAll {α : Type} (stages : Trees W α) : Tree W α α

/-- Lists of trees. -/
inductive Trees (W : Type) : Type → Type 1
  | nil {α : Type} : Trees W α
  | cons {α : Type} (stage : Tree W α α) (stages : Trees W α) : Trees W α

end

mutual

/-- The stage a tree stands for. -/
def Tree.run {α β : Type} : Tree W α β → Stage W α β
  | .leaf f => f
  | .identity => Stage.identity
  | .absent => Stage.ofOption none
  | .present t => Stage.ofOption (some t.run)
  | .boxed t => t.run
  | .chain first second => first.run.andThen second.run
  | .guarded outer guard => outer.run.guardedBy guard.run
  | .composeAll ts => Stage.composeAll ts.run
  | .chainAll ts => Stage.chainAll ts.run

/-- The stages of a list of trees. -/
def Trees.run {α : Type} : Trees W α → List (Stage W α α)
  | .nil => []
  | .cons t ts => t.run :: ts.run

end

/-- A stage with the types of what it takes and gives. -/
structure Leaf (W : Type) where
  Input : Type
  Output : Type
  stage : Stage W Input Output

mutual

/-- The leaves of a tree, in the order of evaluation.  An absent stage is one of them, which vetoes,
and so is one that lets everything pass. -/
def Tree.leaves {α β : Type} : Tree W α β → List (Leaf W)
  | .leaf f => [⟨α, β, f⟩]
  | .identity => [⟨α, α, Stage.identity⟩]
  | .absent => [⟨α, β, Stage.absent⟩]
  | .present t => t.leaves
  | .boxed t => t.leaves
  | .chain first second => first.leaves ++ second.leaves
  | .guarded outer guard => guard.leaves ++ outer.leaves
  | .composeAll ts => ts.leaves
  | .chainAll ts => ts.leaves

/-- The leaves of a list of trees, in order. -/
def Trees.leaves {α : Type} : Trees W α → List (Leaf W)
  | .nil => []
  | .cons t ts => t.leaves ++ ts.leaves

end

/-! ## Visits -/

/-- The run as that of a stage behind it, which is never asked. -/
def halted (r : Run W Failure (Option β)) : Run W Failure (Option γ) :=
  ⟨r.outcome.map fun _ => none, r.world, r.log⟩

/-- The run with what was reported before it. -/
def behind (log : List LogEntry) (r : Run W Failure (Option β)) : Run W Failure (Option β) :=
  ⟨r.outcome, r.world, log ++ r.log⟩

/-- A leaf that is given an input in a world. -/
structure Visit (W : Type) extends Leaf W where
  input : Input
  world : W

/-- What a visit leaves behind. -/
def Visit.run (v : Visit W) : Run W Failure (Option v.Output) := (v.stage v.input).run v.world

/-! ## Evaluation -/

mutual

/-- An application of a tree to an input in a world: the visits it consists of and what it leaves
behind. -/
inductive Tree.Evaluates : {α β : Type} → Tree W α β → α → W → List (Visit W) →
    Run W Failure (Option β) → Prop
  | leaf {α β : Type} (f : Stage W α β) (x : α) (w : W) :
      Tree.Evaluates (.leaf f) x w [⟨⟨α, β, f⟩, x, w⟩] ((f x).run w)
  | identity {α : Type} (x : α) (w : W) :
      Tree.Evaluates .identity x w [⟨⟨α, α, Stage.identity⟩, x, w⟩] ⟨.ok (some x), w, []⟩
  | absent {α β : Type} (x : α) (w : W) :
      Tree.Evaluates (.absent : Tree W α β) x w [⟨⟨α, β, Stage.absent⟩, x, w⟩] ⟨.ok none, w, []⟩
  | present {α β : Type} {t : Tree W α β} {x : α} {w : W} {visits : List (Visit W)}
      {r : Run W Failure (Option β)} (h : t.Evaluates x w visits r) :
      Tree.Evaluates (.present t) x w visits r
  | boxed {α β : Type} {t : Tree W α β} {x : α} {w : W} {visits : List (Visit W)}
      {r : Run W Failure (Option β)} (h : t.Evaluates x w visits r) :
      Tree.Evaluates (.boxed t) x w visits r
  /-- The second stage of a chain gets the output of the first. -/
  | chain {α β γ : Type} {first : Tree W α β} {second : Tree W β γ} {x : α} {y : β} {w w' : W}
      {visits visits' : List (Visit W)} {log : List LogEntry} {r : Run W Failure (Option γ)}
      (h : first.Evaluates x w visits ⟨.ok (some y), w', log⟩)
      (hsecond : second.Evaluates y w' visits' r) :
      Tree.Evaluates (.chain first second) x w (visits ++ visits') (behind log r)
  | chain_halted {α β γ : Type} {first : Tree W α β} {second : Tree W β γ} {x : α} {w : W}
      {visits : List (Visit W)} {r : Run W Failure (Option β)}
      (h : first.Evaluates x w visits r) (hstops : Stops r) :
      Tree.Evaluates (.chain first second) x w visits (halted r)
  /-- A guarded stage gets the input that the guard got. -/
  | guarded {α β γ : Type} {outer : Tree W α γ} {guard : Tree W α β} {x : α} {y : β} {w w' : W}
      {visits visits' : List (Visit W)} {log : List LogEntry} {r : Run W Failure (Option γ)}
      (h : guard.Evaluates x w visits ⟨.ok (some y), w', log⟩)
      (houter : outer.Evaluates x w' visits' r) :
      Tree.Evaluates (.guarded outer guard) x w (visits ++ visits') (behind log r)
  | guarded_halted {α β γ : Type} {outer : Tree W α γ} {guard : Tree W α β} {x : α} {w : W}
      {visits : List (Visit W)} {r : Run W Failure (Option β)}
      (h : guard.Evaluates x w visits r) (hstops : Stops r) :
      Tree.Evaluates (.guarded outer guard) x w visits (halted r)
  /-- Every element gets the input of the composition. -/
  | composeAll {α : Type} {ts : Trees W α} {x : α} {w : W} {visits : List (Visit W)}
      {r : Run W Failure (Option α)} (h : ts.Evaluates (fun _ => x) x w visits r) :
      Tree.Evaluates (.composeAll ts) x w visits r
  /-- Every element gets the output before it. -/
  | chainAll {α : Type} {ts : Trees W α} {x : α} {w : W} {visits : List (Visit W)}
      {r : Run W Failure (Option α)} (h : ts.Evaluates (fun y => y) x w visits r) :
      Tree.Evaluates (.chainAll ts) x w visits r

/-- An application of trees one after the other, each to what `pick` makes of the last output. -/
inductive Trees.Evaluates : {α : Type} → Trees W α → (α → α) → α → W → List (Visit W) →
    Run W Failure (Option α) → Prop
  | nil {α : Type} (pick : α → α) (y : α) (w : W) :
      Trees.Evaluates .nil pick y w [] ⟨.ok (some y), w, []⟩
  | cons {α : Type} {t : Tree W α α} {ts : Trees W α} {pick : α → α} {y z : α} {w w' : W}
      {visits visits' : List (Visit W)} {log : List LogEntry} {r : Run W Failure (Option α)}
      (h : t.Evaluates (pick y) w visits ⟨.ok (some z), w', log⟩)
      (hrest : ts.Evaluates pick z w' visits' r) :
      Trees.Evaluates (.cons t ts) pick y w (visits ++ visits') (behind log r)
  | cons_halted {α : Type} {t : Tree W α α} {ts : Trees W α} {pick : α → α} {y : α} {w : W}
      {visits : List (Visit W)} {r : Run W Failure (Option α)}
      (h : t.Evaluates (pick y) w visits r) (hstops : Stops r) :
      Trees.Evaluates (.cons t ts) pick y w visits (halted r)

end

theorem stops_none {w : W} {log : List LogEntry} :
    Stops (⟨.ok none, w, log⟩ : Run W Failure (Option β)) := by
  intro y hy
  cases hy

theorem stops_or_yields (r : Run W Failure (Option β)) :
    Stops r ∨ ∃ y w log, r = ⟨.ok (some y), w, log⟩ := by
  rcases r with ⟨e | _ | y, w, log⟩
  · exact .inl fun y hy => nomatch hy
  · exact .inl stops_none
  · exact .inr ⟨y, w, log, rfl⟩

theorem Stops.eq_error_or_none {r : Run W Failure (Option β)} (h : Stops r) :
    (∃ e w log, r = ⟨.error e, w, log⟩) ∨ ∃ w log, r = ⟨.ok none, w, log⟩ := by
  rcases r with ⟨e | _ | y, w, log⟩
  · exact .inl ⟨e, w, log, rfl⟩
  · exact .inr ⟨w, log, rfl⟩
  · exact absurd rfl (h y)

theorem stops_halted (r : Run W Failure (Option β)) :
    Stops (halted r : Run W Failure (Option γ)) := by
  rcases r with ⟨e | _, w, log⟩ <;> exact fun y hy => nomatch hy

/-! ## What follows an action -/

/-- The next action, on the value that the first one yields. -/
def onward (a : Action W Failure (Option β)) (next : β → Action W Failure (Option γ)) :
    Action W Failure (Option γ) := do
  match ← a with
  | none => return none
  | some y => next y

theorem onward_run_of_some {a : Action W Failure (Option β)}
    {next : β → Action W Failure (Option γ)} {w w' : W} {y : β} {log : List LogEntry}
    (h : a.run w = ⟨.ok (some y), w', log⟩) :
    (onward a next).run w = behind log ((next y).run w') := Action.run_bind_of_ok h

theorem onward_run_of_stops {a : Action W Failure (Option β)}
    (next : β → Action W Failure (Option γ)) {w : W} (h : Stops (a.run w)) :
    (onward a next).run w = halted (a.run w) := by
  obtain ⟨e, w', log, hrun⟩ | ⟨w', log, hrun⟩ := h.eq_error_or_none
  · rw [onward, Action.run_bind_of_error hrun, hrun]
    rfl
  · rw [onward, Action.run_bind_of_ok hrun, Action.run_pure, List.append_nil, hrun]
    rfl

theorem onward_some (a : Action W Failure (Option β)) : onward a (fun y => return some y) = a := by
  have hpure : (fun o : Option β => (match o with
      | none => return none
      | some y => return some y : Action W Failure (Option β))) = pure := by
    funext o
    cases o <;> rfl
  rw [onward, hpure, bind_pure]

theorem onward_assoc {δ : Type} (a : Action W Failure (Option β))
    (f : β → Action W Failure (Option γ)) (g : γ → Action W Failure (Option δ)) :
    onward (onward a f) g = onward a fun y => onward (f y) g := by
  rw [onward, onward, bind_assoc]
  refine congrArg (a >>= ·) (funext fun o => ?_)
  cases o with
  | none => exact pure_bind _ _
  | some y => rfl

/-- The stages one after the other, each on what `pick` makes of the last output. -/
def inTurn (pick : α → α) : List (Stage W α α) → Stage W α α
  | [], y => return some y
  | f :: rest, y => onward (f (pick y)) (inTurn pick rest)

/-- **A fold of links runs from the front.** -/
theorem linkFrom_eq_onward {pick : α → α → α} (first : Stage W α α) (stages : List (Stage W α α))
    (x : α) : linkFrom pick first stages x = onward (first x) (inTurn (pick x) stages) := by
  induction stages generalizing first with
  | nil => exact (onward_some (first x)).symm
  | cons f rest ih =>
    have hlink : link pick first f x = onward (first x) fun y => f (pick x y) := rfl
    have hrest := ih (link pick first f)
    rw [hlink, onward_assoc] at hrest
    exact hrest

theorem linkAll_eq_inTurn (pick : α → α → α) (stages : List (Stage W α α)) (x : α) :
    linkAll pick stages x = inTurn (pick x) stages x := by
  have hidentity : onward (identity x) (inTurn (pick x) stages) = inTurn (pick x) stages x :=
    pure_bind _ _
  rw [linkAll, linkFrom_eq_onward, hidentity]

/-! ## Every application is an evaluation -/

mutual

theorem Tree.exists_evaluates {α β : Type} : ∀ (t : Tree W α β) (x : α) (w : W),
    ∃ visits, t.Evaluates x w visits ((t.run x).run w)
  | .leaf f, x, w => ⟨_, .leaf f x w⟩
  | .identity, x, w => ⟨_, .identity x w⟩
  | .absent, x, w => ⟨_, .absent x w⟩
  | .present t, x, w => by
    obtain ⟨visits, h⟩ := t.exists_evaluates x w
    exact ⟨visits, .present h⟩
  | .boxed t, x, w => by
    obtain ⟨visits, h⟩ := t.exists_evaluates x w
    exact ⟨visits, .boxed h⟩
  | .chain first second, x, w => by
    have hrun : (Tree.chain first second).run x = onward (first.run x) second.run := rfl
    obtain ⟨visits, h⟩ := first.exists_evaluates x w
    obtain hstops | ⟨y, w', log, hfirst⟩ := stops_or_yields ((first.run x).run w)
    · rw [hrun, onward_run_of_stops _ hstops]
      exact ⟨visits, .chain_halted h hstops⟩
    · obtain ⟨visits', h'⟩ := second.exists_evaluates y w'
      rw [hfirst] at h
      rw [hrun, onward_run_of_some hfirst]
      exact ⟨visits ++ visits', .chain h h'⟩
  | .guarded outer guard, x, w => by
    have hrun : (Tree.guarded outer guard).run x = onward (guard.run x) fun _ => outer.run x := rfl
    obtain ⟨visits, h⟩ := guard.exists_evaluates x w
    obtain hstops | ⟨y, w', log, hguard⟩ := stops_or_yields ((guard.run x).run w)
    · rw [hrun, onward_run_of_stops _ hstops]
      exact ⟨visits, .guarded_halted h hstops⟩
    · obtain ⟨visits', h'⟩ := outer.exists_evaluates x w'
      rw [hguard] at h
      rw [hrun, onward_run_of_some hguard]
      exact ⟨visits ++ visits', .guarded h h'⟩
  | .composeAll ts, x, w => by
    have hrun : (Tree.composeAll ts).run x = inTurn (fun _ => x) ts.run x :=
      linkAll_eq_inTurn (fun x _ => x) ts.run x
    obtain ⟨visits, h⟩ := ts.exists_evaluates (fun _ => x) x w
    rw [hrun]
    exact ⟨visits, .composeAll h⟩
  | .chainAll ts, x, w => by
    have hrun : (Tree.chainAll ts).run x = inTurn (fun y => y) ts.run x :=
      linkAll_eq_inTurn (fun _ y => y) ts.run x
    obtain ⟨visits, h⟩ := ts.exists_evaluates (fun y => y) x w
    rw [hrun]
    exact ⟨visits, .chainAll h⟩

theorem Trees.exists_evaluates {α : Type} : ∀ (ts : Trees W α) (pick : α → α) (y : α) (w : W),
    ∃ visits, ts.Evaluates pick y w visits ((inTurn pick ts.run y).run w)
  | .nil, pick, y, w => ⟨[], .nil pick y w⟩
  | .cons t ts, pick, y, w => by
    have hrun : inTurn pick (Trees.cons t ts).run y =
      onward (t.run (pick y)) (inTurn pick ts.run) := rfl
    obtain ⟨visits, h⟩ := t.exists_evaluates (pick y) w
    obtain hstops | ⟨z, w', log, ht⟩ := stops_or_yields ((t.run (pick y)).run w)
    · rw [hrun, onward_run_of_stops _ hstops]
      exact ⟨visits, .cons_halted h hstops⟩
    · obtain ⟨visits', h'⟩ := ts.exists_evaluates pick z w'
      rw [ht] at h
      rw [hrun, onward_run_of_some ht]
      exact ⟨visits ++ visits', .cons h h'⟩

end

/-! ## Nothing else is an evaluation -/

theorem not_stops {y : β} {w : W} {log : List LogEntry} :
    ¬Stops (⟨.ok (some y), w, log⟩ : Run W Failure (Option β)) := fun h => h y rfl

mutual

theorem Tree.Evaluates.unique {α β : Type} {t : Tree W α β} {x : α} {w : W}
    {visits : List (Visit W)} {r : Run W Failure (Option β)} (h : t.Evaluates x w visits r) :
    ∀ visits' r', t.Evaluates x w visits' r' → visits = visits' ∧ r = r' := by
  match h with
  | .leaf f x w =>
    intro visits' r' h'
    cases h'
    exact ⟨rfl, rfl⟩
  | .identity x w =>
    intro visits' r' h'
    cases h'
    exact ⟨rfl, rfl⟩
  | .absent x w =>
    intro visits' r' h'
    cases h'
    exact ⟨rfl, rfl⟩
  | .present h =>
    intro visits' r' h'
    cases h' with
    | present h' => exact h.unique _ _ h'
  | .boxed h =>
    intro visits' r' h'
    cases h' with
    | boxed h' => exact h.unique _ _ h'
  | .chain h hsecond =>
    intro visits' r' h'
    cases h' with
    | chain h' hsecond' =>
      obtain ⟨rfl, heq⟩ := h.unique _ _ h'
      cases heq
      obtain ⟨rfl, rfl⟩ := hsecond.unique _ _ hsecond'
      exact ⟨rfl, rfl⟩
    | chain_halted h' hstops =>
      -- the first stage cannot both yield something and stop
      obtain ⟨-, rfl⟩ := h.unique _ _ h'
      exact absurd hstops not_stops
  | .chain_halted h hstops =>
    intro visits' r' h'
    cases h' with
    | chain h' _ =>
      obtain ⟨-, rfl⟩ := h.unique _ _ h'
      exact absurd hstops not_stops
    | chain_halted h' _ =>
      obtain ⟨rfl, rfl⟩ := h.unique _ _ h'
      exact ⟨rfl, rfl⟩
  | .guarded h houter =>
    intro visits' r' h'
    cases h' with
    | guarded h' houter' =>
      obtain ⟨rfl, heq⟩ := h.unique _ _ h'
      cases heq
      obtain ⟨rfl, rfl⟩ := houter.unique _ _ houter'
      exact ⟨rfl, rfl⟩
    | guarded_halted h' hstops =>
      obtain ⟨-, rfl⟩ := h.unique _ _ h'
      exact absurd hstops not_stops
  | .guarded_halted h hstops =>
    intro visits' r' h'
    cases h' with
    | guarded h' _ =>
      obtain ⟨-, rfl⟩ := h.unique _ _ h'
      exact absurd hstops not_stops
    | guarded_halted h' _ =>
      obtain ⟨rfl, rfl⟩ := h.unique _ _ h'
      exact ⟨rfl, rfl⟩
  | .composeAll h =>
    intro visits' r' h'
    cases h' with
    | composeAll h' => exact h.unique _ _ h'
  | .chainAll h =>
    intro visits' r' h'
    cases h' with
    | chainAll h' => exact h.unique _ _ h'

theorem Trees.Evaluates.unique {α : Type} {ts : Trees W α} {pick : α → α} {y : α} {w : W}
    {visits : List (Visit W)} {r : Run W Failure (Option α)} (h : ts.Evaluates pick y w visits r) :
    ∀ visits' r', ts.Evaluates pick y w visits' r' → visits = visits' ∧ r = r' := by
  match h with
  | .nil pick y w =>
    intro visits' r' h'
    cases h'
    exact ⟨rfl, rfl⟩
  | .cons h hrest =>
    intro visits' r' h'
    cases h' with
    | cons h' hrest' =>
      obtain ⟨rfl, heq⟩ := h.unique _ _ h'
      cases heq
      obtain ⟨rfl, rfl⟩ := hrest.unique _ _ hrest'
      exact ⟨rfl, rfl⟩
    | cons_halted h' hstops =>
      obtain ⟨-, rfl⟩ := h.unique _ _ h'
      exact absurd hstops not_stops
  | .cons_halted h hstops =>
    intro visits' r' h'
    cases h' with
    | cons h' _ =>
      obtain ⟨-, rfl⟩ := h.unique _ _ h'
      exact absurd hstops not_stops
    | cons_halted h' _ =>
      obtain ⟨rfl, rfl⟩ := h.unique _ _ h'
      exact ⟨rfl, rfl⟩

end

theorem Tree.evaluates_iff {t : Tree W α β} {x : α} {w : W} {visits : List (Visit W)}
    (h : t.Evaluates x w visits ((t.run x).run w)) (visits' : List (Visit W))
    (r : Run W Failure (Option β)) :
    t.Evaluates x w visits' r ↔ visits' = visits ∧ r = (t.run x).run w := by
  constructor
  · intro h'
    exact h'.unique _ _ h
  · rintro ⟨rfl, rfl⟩
    exact h

/-! ## Trees of stages of one type -/

mutual

/-- The tree, with its leaves in place of their names. -/
def ofStageTree {L : Type} (leaves : L → Stage W α α) : StageTree L → Tree W α α
  | .leaf l => .leaf (leaves l)
  | .identity => .identity
  | .absent => .absent
  | .chain first second => .chain (ofStageTree leaves first) (ofStageTree leaves second)
  | .guarded outer guard => .guarded (ofStageTree leaves outer) (ofStageTree leaves guard)
  | .composeAll ts => .composeAll (ofStageTrees leaves ts)
  | .chainAll ts => .chainAll (ofStageTrees leaves ts)
  | .logged name t => .leaf ((ofStageTree leaves t).run.logged name)

def ofStageTrees {L : Type} (leaves : L → Stage W α α) : List (StageTree L) → Trees W α
  | [] => .nil
  | t :: ts => .cons (ofStageTree leaves t) (ofStageTrees leaves ts)

end

mutual

/-- Trees of stages of one type stand for the same stages as before. -/
theorem run_ofStageTree {L : Type} (leaves : L → Stage W α α) (t : StageTree L) :
    (ofStageTree leaves t).run = t.run leaves := by
  cases t with
  | leaf l => rfl
  | identity => rfl
  | absent => rfl
  | chain first second =>
    show (ofStageTree leaves first).run.andThen (ofStageTree leaves second).run = _
    rw [run_ofStageTree leaves first, run_ofStageTree leaves second]
    rfl
  | guarded outer guard =>
    show (ofStageTree leaves outer).run.guardedBy (ofStageTree leaves guard).run = _
    rw [run_ofStageTree leaves outer, run_ofStageTree leaves guard]
    rfl
  | composeAll ts => exact congrArg Stage.composeAll (run_ofStageTrees leaves ts)
  | chainAll ts => exact congrArg Stage.chainAll (run_ofStageTrees leaves ts)
  | logged name t => exact congrArg (Stage.logged name) (run_ofStageTree leaves t)

theorem run_ofStageTrees {L : Type} (leaves : L → Stage W α α) (ts : List (StageTree L)) :
    (ofStageTrees leaves ts).run = StageTree.runAll leaves ts := by
  cases ts with
  | nil => rfl
  | cons t ts =>
    show (ofStageTree leaves t).run :: (ofStageTrees leaves ts).run = _
    rw [run_ofStageTree leaves t, run_ofStageTrees leaves ts]
    rfl

end

end Switchboard.Stage
