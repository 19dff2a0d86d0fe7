import Switchboard.Proofs.Stage.Calls

/-!
# Logged stages

Any nodes of a tree of stages may be logged.  The tree does what it does without that, and reports
of every logged node that gets an input, once, as soon as the node is done.

* `Told`: what the log of a run has to do with the calls; closed under all ways to build a tree.
* `Tree.told`: the log of a tree is that of its calls.
* `transparent_wrapped`: logging is transparent, and tells just what happened.
-/

namespace Switchboard.Stage

variable {W α β γ : Type}

/-! ## Logs and calls -/

/-- What a run with marked nodes has to do with the run without: it ends in the same way, after the
same calls; its log is that of the calls; and no call is that of a node inside which a later one
is. -/
structure Told (m : Marks) (calls calls₀ : List (NodeCall W)) (r r₀ : Run W Failure (Option β)) :
    Prop where
  calls_eq : calls = calls₀
  outcome_eq : r.outcome = r₀.outcome
  world_eq : r.world = r₀.world
  log_eq : r.log = calls.flatMap (NodeCall.entries m)
  order : calls.Pairwise fun c d => ¬c.node <+: d.node

/-- All calls are at the place. -/
def AllUnder (i : Nat) (calls : List (NodeCall W)) : Prop := ∀ c ∈ calls, c.node.head? = some i

theorem allUnder_map_under (i : Nat) (calls : List (NodeCall W)) :
    AllUnder i (calls.map (.under i)) := by
  intro c hc
  obtain ⟨d, -, rfl⟩ := List.mem_map.mp hc
  rfl

namespace Told

variable {m : Marks} {calls calls₀ : List (NodeCall W)} {r r₀ : Run W Failure (Option β)}

protected theorem nil (m : Marks) (y : β) (w : W) :
    Told m [] [] ⟨.ok (some y), w, []⟩ ⟨.ok (some y), w, []⟩ := ⟨rfl, rfl, rfl, rfl, .nil⟩

theorem stops_iff (h : Told m calls calls₀ r r₀) : Stops r ↔ Stops r₀ := by
  rw [Stops, Stops, h.outcome_eq]

/-- Runs at a place of a tree. -/
theorem under {i : Nat} (h : Told (m.below i) calls calls₀ r r₀) :
    Told m (calls.map (.under i)) (calls₀.map (.under i)) r r₀ where
  calls_eq := by rw [h.calls_eq]
  outcome_eq := h.outcome_eq
  world_eq := h.world_eq
  log_eq := by
    rw [h.log_eq, List.flatMap_map]
    rfl
  order := by
    rw [List.pairwise_map]
    apply h.order.imp
    intro c d hcd hprefix
    exact hcd (List.cons_prefix_cons.mp hprefix).2

/-- A leaf, logged or not. -/
theorem leaf (m : Marks) (f : Stage W α β) (x : α) (w : W) :
    Told m [.whole true f x w] [.whole true f x w] ((loggedAs (m []) f x).run w)
      ((f x).run w) := by
  have hentries : [NodeCall.whole true f x w].flatMap (NodeCall.entries m) =
      ((f x).run w).log ++ reportAs (m []) ((f x).run w) := List.append_nil _
  rw [loggedAs_run]
  exact ⟨rfl, rfl, rfl, hentries.symm, List.pairwise_singleton _ _⟩

/-- A node is done when all inside it is. -/
theorem whole {f f₀ : Stage W α β} {x : α} {w : W}
    (h : Told m calls calls₀ ((f x).run w) ((f₀ x).run w)) (hinside : ∀ c ∈ calls, c.node ≠ []) :
    Told m (calls ++ [.whole false f₀ x w]) (calls₀ ++ [.whole false f₀ x w])
      ((loggedAs (m []) f x).run w) ((f₀ x).run w) := by
  have horder : (calls ++ [NodeCall.whole false f₀ x w]).Pairwise
      fun c d => ¬c.node <+: d.node := by
    rw [List.pairwise_append]
    refine ⟨h.order, List.pairwise_singleton _ _, ?_⟩
    intro c hc d hd hprefix
    rw [List.mem_singleton.mp hd] at hprefix
    exact hinside c hc (List.prefix_nil.mp hprefix)
  have hreport : reportAs (m []) ((f x).run w) = reportAs (m []) ((f₀ x).run w) := by
    unfold reportAs
    rw [h.outcome_eq]
  have hentries : (calls ++ [NodeCall.whole false f₀ x w]).flatMap (NodeCall.entries m) =
      ((f x).run w).log ++ reportAs (m []) ((f₀ x).run w) := by
    rw [List.flatMap_append, ← h.log_eq, List.flatMap_singleton]
    rfl
  rw [loggedAs_run, hreport]
  exact ⟨by rw [h.calls_eq], h.outcome_eq, h.world_eq, hentries.symm, horder⟩

/-- What follows a run that yields something comes behind it. -/
theorem onward {a a₀ : Action W Failure (Option β)} {next next₀ : β → Action W Failure (Option γ)}
    {w : W} {later later₀ : β → W → List (NodeCall W)} {i : Nat}
    (h : Told m calls calls₀ (a.run w) (a₀.run w)) (hunder : AllUnder i calls)
    (hnext : ∀ y w', Told m (later y w') (later₀ y w') ((next y).run w') ((next₀ y).run w'))
    (hlater : ∀ y w', ∀ d ∈ later y w', d.node.head? ≠ some i) :
    Told m (calls ++ followUp (a.run w) later) (calls₀ ++ followUp (a₀.run w) later₀)
      ((Stage.onward a next).run w) ((Stage.onward a₀ next₀).run w) := by
  rcases stops_or_yields (a.run w) with hstops | ⟨y, w', log, hrun⟩
  · have hstops₀ := h.stops_iff.mp hstops
    rw [followUp_of_stops hstops, followUp_of_stops hstops₀, onward_run_of_stops next hstops,
      onward_run_of_stops next₀ hstops₀, List.append_nil, List.append_nil]
    refine ⟨h.calls_eq, ?_, h.world_eq, h.log_eq, h.order⟩
    rw [halted, halted, h.outcome_eq]
  · rcases hrun₀ : a₀.run w with ⟨outcome₀, w₀, log₀⟩
    rw [hrun, hrun₀] at h
    obtain rfl : .ok (some y) = outcome₀ := h.outcome_eq
    obtain rfl : w' = w₀ := h.world_eq
    have hrest := hnext y w'
    rw [hrun, onward_run_of_some hrun, onward_run_of_some hrun₀]
    refine ⟨?_, hrest.outcome_eq, hrest.world_eq, ?_, ?_⟩
    · rw [h.calls_eq, followUp, followUp, hrest.calls_eq]
    · rw [List.flatMap_append, ← h.log_eq, followUp, ← hrest.log_eq]
      rfl
    · rw [List.pairwise_append]
      refine ⟨h.order, hrest.order, ?_⟩
      intro c hc d hd hprefix
      have hhead := hunder c hc
      obtain ⟨rest, hrest⟩ := hprefix
      apply hlater y w' d hd
      rw [← hrest, List.head?_append, hhead]
      rfl

end Told

/-! ## All trees -/

theorem node_ne_nil_of_allUnder {i : Nat} {calls : List (NodeCall W)} (h : AllUnder i calls) :
    ∀ c ∈ calls, c.node ≠ [] := by
  intro c hc hnil
  have hhead := h c hc
  rw [hnil] at hhead
  cases hhead

theorem head?_ne_of_map_under {i j : Nat} (hij : j ≠ i) {later : β → W → List (NodeCall W)} (y : β)
    (w : W) : ∀ d ∈ (later y w).map (NodeCall.under j), d.node.head? ≠ some i := by
  intro d hd hhead
  rw [allUnder_map_under j _ d hd] at hhead
  exact hij (Option.some.inj hhead)

theorem node_ne_nil_of_both (i j : Nat) {calls : List (NodeCall W)} {r : Run W Failure (Option β)}
    {later : β → W → List (NodeCall W)} :
    ∀ c ∈ calls.map (.under i) ++ followUp r fun y w => (later y w).map (.under j),
      c.node ≠ [] := by
  intro c hc
  rcases List.mem_append.mp hc with hc | hc
  · exact node_ne_nil_of_allUnder (allUnder_map_under i _) c hc
  · obtain ⟨y, w, hc⟩ := mem_followUp hc
    exact node_ne_nil_of_allUnder (allUnder_map_under j _) c hc

theorem head?_of_mem_calls {ts : Trees W α} {pick : α → α} {i : Nat} {m : Marks} {y : α} {w : W}
    {c : NodeCall W} (h : c ∈ ts.calls pick i m y w) : ∃ j, i ≤ j ∧ c.node.head? = some j := by
  cases ts with
  | nil => cases h
  | cons t ts =>
    rcases List.mem_append.mp h with h | h
    · exact ⟨i, Nat.le_refl i, allUnder_map_under i _ c h⟩
    · obtain ⟨z, w', h⟩ := mem_followUp h
      obtain ⟨j, hj, hhead⟩ := head?_of_mem_calls h
      exact ⟨j, Nat.le_of_succ_le hj, hhead⟩

/-- Calls of later trees are elsewhere. -/
theorem head?_ne_of_mem_calls {ts : Trees W α} {pick : α → α} {i : Nat} {m : Marks} (y : α)
    (w : W) : ∀ c ∈ ts.calls pick (i + 1) m y w, c.node.head? ≠ some i := by
  intro c hc hhead
  obtain ⟨j, hj, hhead'⟩ := head?_of_mem_calls hc
  rw [hhead] at hhead'
  cases hhead'
  omega

theorem node_ne_nil_of_mem_calls {ts : Trees W α} {pick : α → α} {i : Nat} {m : Marks} {y : α}
    {w : W} : ∀ c ∈ ts.calls pick i m y w, c.node ≠ [] := by
  intro c hc hnil
  obtain ⟨j, -, hhead⟩ := head?_of_mem_calls hc
  rw [hnil] at hhead
  cases hhead

mutual

/-- **The log of a tree is that of its calls**, and else logging makes no difference. -/
theorem Tree.told {α β : Type} (t : Tree W α β) (m : Marks) (x : α) (w : W) :
    Told m (t.calls m x w) (t.calls unmarked x w) ((t.wrapped m x).run w) ((t.run x).run w) := by
  match t with
  | .leaf f => exact .leaf m f x w
  | .identity => exact .leaf m Stage.identity x w
  | .absent => exact .leaf m Stage.absent x w
  | .present t =>
    exact (t.told (m.below 0) x w).under.whole (node_ne_nil_of_allUnder (allUnder_map_under 0 _))
  | .boxed t =>
    exact (t.told (m.below 0) x w).under.whole (node_ne_nil_of_allUnder (allUnder_map_under 0 _))
  | .chain first second =>
    have hboth := (first.told (m.below 0) x w).under.onward (allUnder_map_under 0 _)
      (fun y w' => (second.told (m.below 1) y w').under) (head?_ne_of_map_under (by decide))
    rw [Tree.calls, Tree.calls, below_unmarked, below_unmarked, first.wrapped_unmarked]
    exact hboth.whole (node_ne_nil_of_both 0 1)
  | .guarded outer guard =>
    have hboth := (guard.told (m.below 1) x w).under.onward (allUnder_map_under 1 _)
      (fun _ w' => (outer.told (m.below 0) x w').under) (head?_ne_of_map_under (by decide))
    rw [Tree.calls, Tree.calls, below_unmarked, below_unmarked, guard.wrapped_unmarked]
    exact hboth.whole (node_ne_nil_of_both 1 0)
  | .composeAll ts =>
    have hall := ts.told (fun _ => x) 0 m x w
    rw [← linkAll_eq_inTurn (fun x _ => x), ← linkAll_eq_inTurn (fun x _ => x)] at hall
    exact hall.whole node_ne_nil_of_mem_calls
  | .chainAll ts =>
    have hall := ts.told (fun y => y) 0 m x w
    rw [← linkAll_eq_inTurn (fun _ y => y), ← linkAll_eq_inTurn (fun _ y => y)] at hall
    exact hall.whole node_ne_nil_of_mem_calls

theorem Trees.told {α : Type} (ts : Trees W α) (pick : α → α) (i : Nat) (m : Marks) (y : α)
    (w : W) : Told m (ts.calls pick i m y w) (ts.calls pick i unmarked y w)
      ((inTurn pick (ts.wrapped i m) y).run w) ((inTurn pick ts.run y).run w) := by
  match ts with
  | .nil => exact .nil m y w
  | .cons t ts =>
    have hboth := (t.told (m.below i) (pick y) w).under.onward (allUnder_map_under i _)
      (fun z w' => ts.told pick (i + 1) m z w') head?_ne_of_mem_calls
    rw [Trees.calls, Trees.calls, below_unmarked, t.wrapped_unmarked]
    exact hboth

end

/-! ## Logging is transparent -/

/-- What is shown of a verdict under a name: its level, its wording and its fields. -/
def Verdict.shown (name : Text) : Verdict → Level × Text × List (String × FieldValue)
  | .accept => (.trace, "passed".toList, [("stage", .quoted name)])
  | .veto => (.debug, "vetoed".toList, [("stage", .quoted name)])
  | .fail e => (.warn, "failed".toList, [("stage", .quoted name), ("error", .shown e.message)])

theorem shown_verdictEvent (name : Text) (r : Run W Failure (Option β)) :
    ((verdictEvent name r.outcome).level, (verdictEvent name r.outcome).wording,
      (verdictEvent name r.outcome).fields) = (verdict r).shown name := by
  rcases r with ⟨e | _ | y, w, log⟩ <;> rfl

/-- What logging the marked nodes of a tree comes to when the tree is applied. -/
structure Transparent (t : Tree W α β) (m : Marks) (x : α) (w : W) : Prop where
  /-- The tree ends in the same output, veto or error as without wrappers. -/
  outcome_eq : ((t.wrapped m x).run w).outcome = ((t.run x).run w).outcome
  world_eq : ((t.wrapped m x).run w).world = ((t.run x).run w).world
  /-- The same stages get the same inputs in the same worlds, in the same order. -/
  calls_eq : t.calls m x w = t.calls unmarked x w
  stages : ∀ c ∈ t.calls m x w, t.stageAt c.node = some c.toLeaf
  evaluates : t.Evaluates x w (leafVisits (t.calls m x w)) ((t.run x).run w)
  /-- The log is that of the leaves that are called, with one event for each call of a marked node
  and none for a node that is not called. -/
  log_eq : ((t.wrapped m x).run w).log = (t.calls m x w).flatMap (NodeCall.entries m)
  /-- No node is called twice. -/
  nodup : ((t.calls m x w).map NodeCall.node).Nodup
  /-- A node is done after all that is inside it. -/
  order : (t.calls m x w).Pairwise fun c d => ¬c.node <+: d.node
  /-- The event shows the node's own verdict, and its error if it fails. -/
  shown : ∀ c ∈ t.calls m x w, ∀ name, m c.node = some name →
    let event := verdictEvent name c.run.outcome
    (event.level, event.wording, event.fields) = (verdict c.run).shown name

/-- **Logging is transparent, and tells just what happened**, whichever nodes of a tree are
logged. -/
theorem transparent_wrapped (t : Tree W α β) (m : Marks) (x : α) (w : W) :
    Transparent t m x w := by
  have htold := t.told m x w
  have hevaluates := t.evaluates_calls x w
  rw [← htold.calls_eq] at hevaluates
  have hnodup : ((t.calls m x w).map NodeCall.node).Nodup := by
    rw [List.Nodup, List.pairwise_map]
    apply htold.order.imp
    intro c d hcd heq
    have hprefix : c.node <+: d.node := heq ▸ List.prefix_refl c.node
    exact hcd hprefix
  exact {
    outcome_eq := htold.outcome_eq
    world_eq := htold.world_eq
    calls_eq := htold.calls_eq
    stages := fun c hc => t.stageAt_of_mem_calls hc
    evaluates := hevaluates
    log_eq := htold.log_eq
    nodup := hnodup
    order := htold.order
    shown := fun c _ name _ => shown_verdictEvent name c.run }

/-- A chain of which every node is logged: the second stage is not reached. -/
example :
    let t : Tree Unit Nat Nat := .chain .absent (.leaf (filter fun n => n = 0))
    ((t.wrapped (fun n => some ("chain".toList.take (n.length + 1))) 0).run ()).log =
      [{ event := .vetoed "ch".toList }, { event := .vetoed "c".toList }] := rfl

end Switchboard.Stage
