import Switchboard.Proofs.Stage.FailFast

/-!
# Calls of the nodes of a tree

A tree of stages of which some nodes are logged, and the nodes that get an input when it is applied.

* `Tree.wrapped`: the tree with some of its nodes logged.
* `Tree.calls`: the nodes that get an input, in the order in which they are done.
* `Tree.evaluates_calls`: the leaves among them are the visits of an evaluation.
* `Tree.stageAt_of_mem_calls`: a call is made of the stage at its node.
-/

namespace Switchboard.Stage

variable {W α β γ : Type}

/-! ## Marked nodes -/

/-- A node of a tree, as the places at which to go on from the root. -/
abbrev Node := List Nat

/-- The names under which nodes are logged; the others are not. -/
abbrev Marks := Node → Option Text

/-- The marks of what stands at a place. -/
def Marks.below (m : Marks) (i : Nat) : Marks := fun n => m (i :: n)

def unmarked : Marks := fun _ => none

theorem below_unmarked (i : Nat) : unmarked.below i = unmarked := rfl

/-- The stage, logged if there is a name. -/
def loggedAs (name : Option Text) (f : Stage W α β) : Stage W α β :=
  match name with
  | none => f
  | some name => f.logged name

/-- What the wrapper reports of a run, if there is one. -/
def reportAs (name : Option Text) (r : Run W Failure (Option β)) : List LogEntry :=
  match name with
  | none => []
  | some name => [{ event := verdictEvent name r.outcome }]

theorem loggedAs_run (name : Option Text) (f : Stage W α β) (x : α) (w : W) :
    (loggedAs name f x).run w =
      ⟨((f x).run w).outcome, ((f x).run w).world,
        ((f x).run w).log ++ reportAs name ((f x).run w)⟩ := by
  cases name with
  | none =>
    rw [reportAs, List.append_nil]
    rfl
  | some name => exact logged_run name f x w

mutual

/-- The stage a tree stands for if its marked nodes are logged. -/
def Tree.wrapped {α β : Type} : Tree W α β → Marks → Stage W α β
  | .leaf f, m => loggedAs (m []) f
  | .identity, m => loggedAs (m []) Stage.identity
  | .absent, m => loggedAs (m []) (Stage.ofOption none)
  | .present t, m => loggedAs (m []) (Stage.ofOption (some (t.wrapped (m.below 0))))
  | .boxed t, m => loggedAs (m []) (t.wrapped (m.below 0))
  | .chain first second, m =>
    loggedAs (m []) ((first.wrapped (m.below 0)).andThen (second.wrapped (m.below 1)))
  | .guarded outer guard, m =>
    loggedAs (m []) ((outer.wrapped (m.below 0)).guardedBy (guard.wrapped (m.below 1)))
  | .composeAll ts, m => loggedAs (m []) (Stage.composeAll (ts.wrapped 0 m))
  | .chainAll ts, m => loggedAs (m []) (Stage.chainAll (ts.wrapped 0 m))

/-- The stages of a list of trees, of which the first stands at the given place. -/
def Trees.wrapped {α : Type} : Trees W α → Nat → Marks → List (Stage W α α)
  | .nil, _, _ => []
  | .cons t ts, i, m => t.wrapped (m.below i) :: ts.wrapped (i + 1) m

end

mutual

theorem Tree.wrapped_unmarked {α β : Type} (t : Tree W α β) : t.wrapped unmarked = t.run := by
  match t with
  | .leaf f => rfl
  | .identity => rfl
  | .absent => rfl
  | .present t => exact congrArg (fun f => Stage.ofOption (some f)) t.wrapped_unmarked
  | .boxed t => exact t.wrapped_unmarked
  | .chain first second =>
    show (first.wrapped unmarked).andThen (second.wrapped unmarked) = _
    rw [first.wrapped_unmarked, second.wrapped_unmarked]
    rfl
  | .guarded outer guard =>
    show (outer.wrapped unmarked).guardedBy (guard.wrapped unmarked) = _
    rw [outer.wrapped_unmarked, guard.wrapped_unmarked]
    rfl
  | .composeAll ts => exact congrArg Stage.composeAll (ts.wrapped_unmarked 0)
  | .chainAll ts => exact congrArg Stage.chainAll (ts.wrapped_unmarked 0)

theorem Trees.wrapped_unmarked {α : Type} (ts : Trees W α) (i : Nat) :
    ts.wrapped i unmarked = ts.run := by
  match ts with
  | .nil => rfl
  | .cons t ts =>
    show t.wrapped unmarked :: ts.wrapped (i + 1) unmarked = _
    rw [t.wrapped_unmarked, ts.wrapped_unmarked]
    rfl

end

/-! ## Calls -/

/-- A node that is given an input in a world. -/
structure NodeCall (W : Type) extends Visit W where
  node : Node
  isLeaf : Bool

namespace NodeCall

/-- The call of a whole tree. -/
def whole (isLeaf : Bool) (f : Stage W α β) (x : α) (w : W) : NodeCall W :=
  ⟨⟨⟨α, β, f⟩, x, w⟩, [], isLeaf⟩

/-- The call, in a tree in which its own stands at a place. -/
def under (i : Nat) (c : NodeCall W) : NodeCall W := { c with node := i :: c.node }

/-- What the log has of a call apart from the calls inside it: what a leaf reports, and an event if
the node is marked. -/
def entries (m : Marks) (c : NodeCall W) : List LogEntry :=
  (if c.isLeaf then c.run.log else []) ++ reportAs (m c.node) c.run

end NodeCall

/-- The calls that follow a run which yields something. -/
def followUp (r : Run W Failure (Option β)) (next : β → W → List (NodeCall W)) :
    List (NodeCall W) :=
  match r with
  | ⟨.ok (some y), w, _⟩ => next y w
  | _ => []

mutual

/-- The calls of the nodes of a tree, some of them logged, in the order in which they are done. -/
def Tree.calls {α β : Type} : Tree W α β → Marks → α → W → List (NodeCall W)
  | .leaf f, _, x, w => [.whole true f x w]
  | .identity, _, x, w => [.whole true (Stage.identity : Stage W α α) x w]
  | .absent, _, x, w => [.whole true (Stage.absent : Stage W α β) x w]
  | .present t, m, x, w => (t.calls (m.below 0) x w).map (.under 0) ++ [.whole false t.run x w]
  | .boxed t, m, x, w => (t.calls (m.below 0) x w).map (.under 0) ++ [.whole false t.run x w]
  | .chain first second, m, x, w =>
    (first.calls (m.below 0) x w).map (.under 0) ++
      followUp ((first.wrapped (m.below 0) x).run w) (fun y w' =>
        (second.calls (m.below 1) y w').map (.under 1)) ++
      [.whole false (first.run.andThen second.run) x w]
  | .guarded outer guard, m, x, w =>
    (guard.calls (m.below 1) x w).map (.under 1) ++
      followUp ((guard.wrapped (m.below 1) x).run w) (fun _ w' =>
        (outer.calls (m.below 0) x w').map (.under 0)) ++
      [.whole false (outer.run.guardedBy guard.run) x w]
  | .composeAll ts, m, x, w =>
    ts.calls (fun _ => x) 0 m x w ++ [.whole false (Stage.composeAll ts.run) x w]
  | .chainAll ts, m, x, w =>
    ts.calls (fun y => y) 0 m x w ++ [.whole false (Stage.chainAll ts.run) x w]

/-- The calls of trees one after the other, each on what `pick` makes of the last output. -/
def Trees.calls {α : Type} : Trees W α → (α → α) → Nat → Marks → α → W → List (NodeCall W)
  | .nil, _, _, _, _, _ => []
  | .cons t ts, pick, i, m, y, w =>
    (t.calls (m.below i) (pick y) w).map (.under i) ++
      followUp ((t.wrapped (m.below i) (pick y)).run w) (ts.calls pick (i + 1) m)

end

theorem followUp_of_stops {r : Run W Failure (Option β)} (h : Stops r)
    (next : β → W → List (NodeCall W)) : followUp r next = [] := by
  rcases h.eq_error_or_none with ⟨e, w, log, rfl⟩ | ⟨w, log, rfl⟩ <;> rfl

/-! ## Calls and visits -/

/-- The visits to leaves among some calls. -/
def leafVisits (calls : List (NodeCall W)) : List (Visit W) :=
  (calls.filter NodeCall.isLeaf).map NodeCall.toVisit

theorem leafVisits_nil : leafVisits ([] : List (NodeCall W)) = [] := rfl

theorem leafVisits_append (calls calls' : List (NodeCall W)) :
    leafVisits (calls ++ calls') = leafVisits calls ++ leafVisits calls' := by
  rw [leafVisits, List.filter_append, List.map_append]
  rfl

theorem leafVisits_map_under (i : Nat) (calls : List (NodeCall W)) :
    leafVisits (calls.map (.under i)) = leafVisits calls := by
  rw [leafVisits, List.filter_map, List.map_map]
  rfl

theorem leafVisits_whole (calls : List (NodeCall W)) (f : Stage W α β) (x : α) (w : W) :
    leafVisits (calls ++ [.whole false f x w]) = leafVisits calls := by
  rw [leafVisits_append]
  exact List.append_nil _

mutual

/-- The leaves among the calls are the visits of an evaluation. -/
theorem Tree.evaluates_calls {α β : Type} (t : Tree W α β) (x : α) (w : W) :
    t.Evaluates x w (leafVisits (t.calls unmarked x w)) ((t.run x).run w) := by
  match t with
  | .leaf f => exact .leaf f x w
  | .identity => exact .identity x w
  | .absent => exact .absent x w
  | .present t =>
    rw [Tree.calls, leafVisits_whole, leafVisits_map_under]
    exact .present (t.evaluates_calls x w)
  | .boxed t =>
    rw [Tree.calls, leafVisits_whole, leafVisits_map_under]
    exact .boxed (t.evaluates_calls x w)
  | .chain first second =>
    have hfirst := first.evaluates_calls x w
    have hrun : (Tree.chain first second).run x = onward (first.run x) second.run := rfl
    rw [Tree.calls, leafVisits_whole, leafVisits_append, leafVisits_map_under, below_unmarked,
      below_unmarked, first.wrapped_unmarked, hrun]
    rcases stops_or_yields ((first.run x).run w) with hstops | ⟨y, w', log, hyields⟩
    · rw [followUp_of_stops hstops, onward_run_of_stops _ hstops]
      rw [leafVisits_nil, List.append_nil]
      exact .chain_halted hfirst hstops
    · rw [hyields] at hfirst
      rw [onward_run_of_some hyields, hyields, followUp, leafVisits_map_under]
      exact .chain hfirst (second.evaluates_calls y w')
  | .guarded outer guard =>
    have hguard := guard.evaluates_calls x w
    have hrun : (Tree.guarded outer guard).run x = onward (guard.run x) fun _ => outer.run x := rfl
    rw [Tree.calls, leafVisits_whole, leafVisits_append, leafVisits_map_under, below_unmarked,
      below_unmarked, guard.wrapped_unmarked, hrun]
    rcases stops_or_yields ((guard.run x).run w) with hstops | ⟨y, w', log, hyields⟩
    · rw [followUp_of_stops hstops, onward_run_of_stops _ hstops]
      rw [leafVisits_nil, List.append_nil]
      exact .guarded_halted hguard hstops
    · rw [hyields] at hguard
      rw [onward_run_of_some hyields, hyields, followUp, leafVisits_map_under]
      exact .guarded hguard (outer.evaluates_calls x w')
  | .composeAll ts =>
    have hall := ts.evaluates_calls (fun _ => x) 0 x w
    rw [← linkAll_eq_inTurn (fun x _ => x)] at hall
    rw [Tree.calls, leafVisits_whole]
    exact .composeAll hall
  | .chainAll ts =>
    have hall := ts.evaluates_calls (fun y => y) 0 x w
    rw [← linkAll_eq_inTurn (fun _ y => y)] at hall
    rw [Tree.calls, leafVisits_whole]
    exact .chainAll hall

theorem Trees.evaluates_calls {α : Type} (ts : Trees W α) (pick : α → α) (i : Nat) (y : α) (w : W) :
    ts.Evaluates pick y w (leafVisits (ts.calls pick i unmarked y w))
      ((inTurn pick ts.run y).run w) := by
  match ts with
  | .nil => exact .nil pick y w
  | .cons t ts =>
    have ht := t.evaluates_calls (pick y) w
    have hrun : inTurn pick (Trees.cons t ts).run y =
      onward (t.run (pick y)) (inTurn pick ts.run) := rfl
    rw [Trees.calls, leafVisits_append, leafVisits_map_under, below_unmarked, t.wrapped_unmarked,
      hrun]
    rcases stops_or_yields ((t.run (pick y)).run w) with hstops | ⟨z, w', log, hyields⟩
    · rw [followUp_of_stops hstops, onward_run_of_stops _ hstops]
      rw [leafVisits_nil, List.append_nil]
      exact .cons_halted ht hstops
    · rw [hyields] at ht
      rw [onward_run_of_some hyields, hyields, followUp]
      exact .cons ht (ts.evaluates_calls pick (i + 1) z w')

end

/-! ## Nodes and their stages -/

mutual

/-- The stage that a node stands for. -/
def Tree.stageAt {α β : Type} (t : Tree W α β) (n : Node) : Option (Leaf W) :=
  match n with
  | [] => some ⟨α, β, t.run⟩
  | i :: n =>
    match t, i with
    | .composeAll ts, i | .chainAll ts, i => ts.stageAt i n
    | .present t, 0 | .boxed t, 0 | .chain t _, 0 | .chain _ t, 1 => t.stageAt n
    | .guarded t _, 0 | .guarded _ t, 1 => t.stageAt n
    | _, _ => none

/-- The stage that a node stands for in the tree at a place of a list. -/
def Trees.stageAt {α : Type} (ts : Trees W α) (i : Nat) (n : Node) : Option (Leaf W) :=
  match i, ts with
  | _, .nil => none
  | 0, .cons t _ => t.stageAt n
  | i + 1, .cons _ ts => ts.stageAt i n

end

theorem mem_followUp {r : Run W Failure (Option β)} {next : β → W → List (NodeCall W)}
    {c : NodeCall W} (h : c ∈ followUp r next) : ∃ y w, c ∈ next y w := by
  unfold followUp at h
  split at h
  · exact ⟨_, _, h⟩
  · cases h

/-- Of a node with two places, a call is at the one, at the other, or its own. -/
theorem mem_pair_cases {i j : Nat} {calls : List (NodeCall W)} {r : Run W Failure (Option β)}
    {later : β → W → List (NodeCall W)} {own c : NodeCall W}
    (h : c ∈ calls.map (.under i) ++ followUp r (fun y w => (later y w).map (.under j)) ++ [own]) :
    (∃ d ∈ calls, d.under i = c) ∨ (∃ y w, ∃ d ∈ later y w, d.under j = c) ∨ c = own := by
  rcases List.mem_append.mp h with h | h
  · rcases List.mem_append.mp h with h | h
    · exact .inl (List.mem_map.mp h)
    · obtain ⟨y, w, h⟩ := mem_followUp h
      exact .inr (.inl ⟨y, w, List.mem_map.mp h⟩)
  · exact .inr (.inr (List.mem_singleton.mp h))

mutual

/-- A call is made of the stage at its node. -/
theorem Tree.stageAt_of_mem_calls {α β : Type} (t : Tree W α β) {m : Marks} {x : α} {w : W}
    {c : NodeCall W} (h : c ∈ t.calls m x w) : t.stageAt c.node = some c.toLeaf := by
  match t with
  | .leaf f =>
    rw [List.mem_singleton.mp h]
    rfl
  | .identity =>
    rw [List.mem_singleton.mp h]
    rfl
  | .absent =>
    rw [List.mem_singleton.mp h]
    rfl
  | .present t =>
    rcases List.mem_append.mp h with h | h
    · obtain ⟨d, hd, rfl⟩ := List.mem_map.mp h
      exact t.stageAt_of_mem_calls hd
    · rw [List.mem_singleton.mp h]
      rfl
  | .boxed t =>
    rcases List.mem_append.mp h with h | h
    · obtain ⟨d, hd, rfl⟩ := List.mem_map.mp h
      exact t.stageAt_of_mem_calls hd
    · rw [List.mem_singleton.mp h]
      rfl
  | .chain first second =>
    rcases mem_pair_cases h with ⟨d, hd, rfl⟩ | ⟨y, w', d, hd, rfl⟩ | rfl
    · exact first.stageAt_of_mem_calls hd
    · exact second.stageAt_of_mem_calls hd
    · rfl
  | .guarded outer guard =>
    rcases mem_pair_cases h with ⟨d, hd, rfl⟩ | ⟨y, w', d, hd, rfl⟩ | rfl
    · exact guard.stageAt_of_mem_calls hd
    · exact outer.stageAt_of_mem_calls hd
    · rfl
  | .composeAll ts =>
    rcases List.mem_append.mp h with h | h
    · obtain ⟨j, n, hnode, hstage⟩ := ts.stageAt_of_mem_calls h
      rw [hnode, Nat.zero_add]
      exact hstage
    · rw [List.mem_singleton.mp h]
      rfl
  | .chainAll ts =>
    rcases List.mem_append.mp h with h | h
    · obtain ⟨j, n, hnode, hstage⟩ := ts.stageAt_of_mem_calls h
      rw [hnode, Nat.zero_add]
      exact hstage
    · rw [List.mem_singleton.mp h]
      rfl

theorem Trees.stageAt_of_mem_calls {α : Type} (ts : Trees W α) {pick : α → α} {i : Nat} {m : Marks}
    {y : α} {w : W} {c : NodeCall W} (h : c ∈ ts.calls pick i m y w) :
    ∃ j n, c.node = (i + j) :: n ∧ ts.stageAt j n = some c.toLeaf := by
  match ts with
  | .nil => cases h
  | .cons t ts =>
    rcases List.mem_append.mp h with h | h
    · obtain ⟨d, hd, rfl⟩ := List.mem_map.mp h
      exact ⟨0, d.node, rfl, t.stageAt_of_mem_calls hd⟩
    · obtain ⟨z, w', h⟩ := mem_followUp h
      obtain ⟨j, n, hnode, hstage⟩ := ts.stageAt_of_mem_calls h
      refine ⟨j + 1, n, ?_, hstage⟩
      rw [hnode, Nat.add_assoc, Nat.add_comm 1 j]

end

end Switchboard.Stage
