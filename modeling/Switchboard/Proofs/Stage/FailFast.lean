import Switchboard.Proofs.Stage.Tree

/-!
# Trees of stages fail fast

A tree of stages runs its leaves one after the other, until one vetoes or fails.

* `Passage`: leaves in order, up to the first that does not accept.
* `Tree.Evaluates.passage`: an evaluation is a passage through the leaves of the tree.
* `FailFast`: what a passage comes to.
* `failFast_run`: every application of a tree fails fast.
-/

namespace Switchboard.Stage

variable {W α β γ : Type}

/-! ## Verdicts -/

/-- What becomes of an input. -/
inductive Verdict where
  | accept
  | veto
  | fail (e : Failure)

/-- The verdict of a run. -/
def verdict (r : Run W Failure (Option β)) : Verdict :=
  match r.outcome with
  | .ok (some _) => .accept
  | .ok none => .veto
  | .error e => .fail e

theorem verdict_ne_accept {r : Run W Failure (Option β)} (h : Stops r) : verdict r ≠ .accept := by
  obtain ⟨e, w, log, rfl⟩ | ⟨w, log, rfl⟩ := h.eq_error_or_none <;> exact fun heq => nomatch heq

theorem verdict_halted {r : Run W Failure (Option β)} (h : Stops r) :
    verdict (halted r : Run W Failure (Option γ)) = verdict r := by
  obtain ⟨e, w, log, rfl⟩ | ⟨w, log, rfl⟩ := h.eq_error_or_none <;> rfl

/-! ## Passages -/

/-- Leaves that run in order, up to the first that does not accept: the visits made, the verdict, the
world behind them and what they reported. -/
inductive Passage : List (Leaf W) → W → List (Visit W) → Verdict → W → List LogEntry → Prop
  | nil (w : W) : Passage [] w [] .accept w []
  | accept {v : Visit W} {leaves : List (Leaf W)} {visits : List (Visit W)} {d : Verdict} {w : W}
      {log : List LogEntry} (h : verdict v.run = .accept)
      (hrest : Passage leaves v.run.world visits d w log) :
      Passage (v.toLeaf :: leaves) v.world (v :: visits) d w (v.run.log ++ log)
  | stop {v : Visit W} (leaves : List (Leaf W)) (h : verdict v.run ≠ .accept) :
      Passage (v.toLeaf :: leaves) v.world [v] (verdict v.run) v.run.world v.run.log

namespace Passage

variable {leaves more : List (Leaf W)} {w w' w'' : W} {visits visits' : List (Visit W)}
  {d : Verdict} {log log' : List LogEntry}

protected theorem single (v : Visit W) :
    Passage [v.toLeaf] v.world [v] (verdict v.run) v.run.world v.run.log := by
  by_cases h : verdict v.run = .accept
  · have haccept : Passage [v.toLeaf] v.world [v] .accept v.run.world (v.run.log ++ []) :=
      .accept h (.nil _)
    rw [List.append_nil] at haccept
    rw [h]
    exact haccept
  · exact .stop [] h

/-- A passage that nothing stopped goes on. -/
protected theorem append (h : Passage leaves w visits .accept w' log)
    (hmore : Passage more w' visits' d w'' log') :
    Passage (leaves ++ more) w (visits ++ visits') d w'' (log ++ log') := by
  -- the induction is on the first passage, and needs a variable for its verdict
  generalize hd : Verdict.accept = accepted at h
  induction h with
  | nil w => exact hmore
  | accept hv _ ih =>
    rw [List.append_assoc]
    exact .accept hv (ih hmore hd)
  | stop _ hv => exact absurd hd.symm hv

/-- A passage that was stopped does not reach what is behind. -/
theorem halt (h : Passage leaves w visits d w' log) (hd : d ≠ .accept) (more : List (Leaf W)) :
    Passage (leaves ++ more) w visits d w' log := by
  induction h with
  | nil w => exact absurd rfl hd
  | accept hv _ ih => exact .accept hv (ih hd)
  | stop leaves hv => exact .stop (leaves ++ more) hv

end Passage

mutual

theorem Tree.Evaluates.passage {α β : Type} {t : Tree W α β} {x : α} {w : W}
    {visits : List (Visit W)} {r : Run W Failure (Option β)} (h : t.Evaluates x w visits r) :
    Passage t.leaves w visits (verdict r) r.world r.log := by
  match h with
  | .leaf f x w => exact .single ⟨⟨α, β, f⟩, x, w⟩
  | .identity x w => exact .single ⟨⟨α, α, Stage.identity⟩, x, w⟩
  | .absent x w => exact .single ⟨⟨α, β, Stage.absent⟩, x, w⟩
  | .present h => exact h.passage
  | .boxed h => exact h.passage
  | .chain h hsecond => exact h.passage.append hsecond.passage
  | .chain_halted h hstops =>
    rw [verdict_halted hstops]
    exact h.passage.halt (verdict_ne_accept hstops) _
  | .guarded h houter => exact h.passage.append houter.passage
  | .guarded_halted h hstops =>
    rw [verdict_halted hstops]
    exact h.passage.halt (verdict_ne_accept hstops) _
  | .composeAll h => exact h.passage
  | .chainAll h => exact h.passage

theorem Trees.Evaluates.passage {α : Type} {ts : Trees W α} {pick : α → α} {y : α} {w : W}
    {visits : List (Visit W)} {r : Run W Failure (Option α)} (h : ts.Evaluates pick y w visits r) :
    Passage ts.leaves w visits (verdict r) r.world r.log := by
  match h with
  | .nil pick y w => exact .nil w
  | .cons h hrest => exact h.passage.append hrest.passage
  | .cons_halted h hstops =>
    rw [verdict_halted hstops]
    exact h.passage.halt (verdict_ne_accept hstops) _

end

/-! ## What a passage comes to -/

/-- What a passage comes to, in terms of its visits. -/
structure FailFast (leaves : List (Leaf W)) (w : W) (visits : List (Visit W))
    (r : Run W Failure (Option β)) : Prop where
  /-- The first leaves run, each once and in order. -/
  ran : visits.map Visit.toLeaf <+: leaves
  /-- All but the last accept. -/
  accepted : ∀ v ∈ visits.dropLast, verdict v.run = .accept
  /-- Each runs in the world that the one before it left behind. -/
  worlds : visits.map Visit.world ++ [r.world] = w :: visits.map fun v => v.run.world
  reported : r.log = visits.flatMap fun v => v.run.log
  /-- An output is yielded iff all leaves ran and accepted. -/
  yields_iff : (∃ y, r.outcome = .ok (some y)) ↔
    visits.map Visit.toLeaf = leaves ∧ ∀ v ∈ visits, verdict v.run = .accept
  /-- A veto is that of the last leaf that ran. -/
  vetoes_iff : r.outcome = .ok none ↔ ∃ v, visits.getLast? = some v ∧ verdict v.run = .veto
  /-- An error is that of the last leaf that ran. -/
  fails_iff : ∀ e, r.outcome = .error e ↔
    ∃ v, visits.getLast? = some v ∧ verdict v.run = .fail e

theorem verdict_eq_accept_iff {r : Run W Failure (Option β)} :
    verdict r = .accept ↔ ∃ y, r.outcome = .ok (some y) := by
  rcases r with ⟨e | _ | y, w, log⟩ <;> simp [verdict]

theorem verdict_eq_veto_iff {r : Run W Failure (Option β)} :
    verdict r = .veto ↔ r.outcome = .ok none := by
  rcases r with ⟨e | _ | y, w, log⟩ <;> simp [verdict]

theorem verdict_eq_fail_iff {r : Run W Failure (Option β)} {e : Failure} :
    verdict r = .fail e ↔ r.outcome = .error e := by
  rcases r with ⟨e | _ | y, w, log⟩ <;> simp [verdict]

namespace Passage

variable {leaves : List (Leaf W)} {w w' : W} {visits : List (Visit W)} {d : Verdict}
  {log : List LogEntry}

theorem ran (h : Passage leaves w visits d w' log) : visits.map Visit.toLeaf <+: leaves := by
  induction h with
  | nil w => exact List.prefix_refl []
  | accept _ _ ih => exact List.cons_prefix_cons.mpr ⟨rfl, ih⟩
  | stop leaves _ => exact ⟨leaves, rfl⟩

theorem accepted (h : Passage leaves w visits d w' log) :
    ∀ v ∈ visits.dropLast, verdict v.run = .accept := by
  induction h with
  | nil w => exact fun _ hv => nomatch hv
  | @accept v _ visits _ _ _ hv _ ih =>
    cases visits with
    | nil => exact fun _ hu => nomatch hu
    | cons u us =>
      intro u' hu'
      obtain rfl | hu' := List.mem_cons.mp hu'
      · exact hv
      · exact ih u' hu'
  | stop _ _ => exact fun _ hv => nomatch hv

theorem worlds (h : Passage leaves w visits d w' log) :
    visits.map Visit.world ++ [w'] = w :: visits.map fun v => v.run.world := by
  induction h with
  | nil w => rfl
  | @accept v _ _ _ _ _ _ _ ih => exact congrArg (v.world :: ·) ih
  | stop _ _ => rfl

theorem reported (h : Passage leaves w visits d w' log) :
    log = visits.flatMap fun v => v.run.log := by
  induction h with
  | nil w => rfl
  | @accept v _ _ _ _ _ _ _ ih => rw [ih, List.flatMap_cons]
  | @stop v _ _ => exact (List.append_nil v.run.log).symm

theorem eq_accept_of_nil (h : Passage leaves w [] d w' log) : d = .accept := by
  cases h
  rfl

/-- The verdict is that of the last visit. -/
theorem verdict_last (h : Passage leaves w visits d w' log) {v : Visit W}
    (hlast : visits.getLast? = some v) : d = verdict v.run := by
  induction h with
  | nil w => cases hlast
  | @accept u _ visits _ _ _ hu hrest ih =>
    cases visits with
    | nil =>
      obtain rfl : u = v := Option.some.inj hlast
      rw [hrest.eq_accept_of_nil, hu]
    | cons _ _ => exact ih hlast
  | @stop u _ _ =>
    obtain rfl : u = v := Option.some.inj hlast
    rfl

theorem verdict_iff (h : Passage leaves w visits d w' log) {d' : Verdict} (hd' : d' ≠ .accept) :
    d = d' ↔ ∃ v, visits.getLast? = some v ∧ verdict v.run = d' := by
  constructor
  · rintro rfl
    cases hlast : visits.getLast? with
    | none =>
      rw [List.getLast?_eq_none_iff.mp hlast] at h
      exact absurd h.eq_accept_of_nil hd'
    | some v => exact ⟨v, rfl, (h.verdict_last hlast).symm⟩
  · rintro ⟨v, hlast, rfl⟩
    exact h.verdict_last hlast

/-- All leaves accept iff nothing stops the passage. -/
theorem accept_iff (h : Passage leaves w visits d w' log) :
    d = .accept ↔ visits.map Visit.toLeaf = leaves ∧ ∀ v ∈ visits, verdict v.run = .accept := by
  induction h with
  | nil w => exact ⟨fun _ => ⟨rfl, fun _ hv => nomatch hv⟩, fun _ => rfl⟩
  | accept hv _ ih =>
    rw [ih, List.map_cons, List.forall_mem_cons]
    constructor
    · rintro ⟨hleaves, hall⟩
      exact ⟨congrArg _ hleaves, hv, hall⟩
    · rintro ⟨hleaves, -, hall⟩
      exact ⟨(List.cons.inj hleaves).2, hall⟩
  | stop _ hv =>
    constructor
    · intro h
      exact absurd h hv
    · rintro ⟨-, hall⟩
      exact hall _ List.mem_cons_self

theorem failFast {r : Run W Failure (Option β)}
    (h : Passage leaves w visits (verdict r) r.world r.log) : FailFast leaves w visits r where
  ran := h.ran
  accepted := h.accepted
  worlds := h.worlds
  reported := h.reported
  yields_iff := verdict_eq_accept_iff.symm.trans h.accept_iff
  vetoes_iff := verdict_eq_veto_iff.symm.trans (h.verdict_iff fun heq => nomatch heq)
  fails_iff _ := verdict_eq_fail_iff.symm.trans (h.verdict_iff fun heq => nomatch heq)

end Passage

/-- **Every application of a tree of stages fails fast.**  It consists of visits to the first of the
leaves, up to one that vetoes or fails, and the rules of `Evaluates` say which input each part of the
tree is given on the way; there is no other evaluation. -/
theorem failFast_run (t : Tree W α β) (x : α) (w : W) : ∃ visits,
    (∀ visits' r, t.Evaluates x w visits' r ↔ visits' = visits ∧ r = (t.run x).run w) ∧
      FailFast t.leaves w visits ((t.run x).run w) := by
  obtain ⟨visits, h⟩ := t.exists_evaluates x w
  exact ⟨visits, t.evaluates_iff h, h.passage.failFast⟩

end Switchboard.Stage
