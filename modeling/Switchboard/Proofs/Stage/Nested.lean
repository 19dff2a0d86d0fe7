import Switchboard.Proofs.Stage.FailFast

/-!
# Nested lists of stages

A list of stages may hold lists of stages.  Chains of chains are chains: nothing shows where the
lists were.  Composites of composites are composites as far as stages run and verdicts go, but an
empty composite at the very end gives back the input of them all, and not what the last stage made
of it.

* `Nest`: lists nested to any depth.
* `Nest.exists_evaluates`: a nest and its flattening are evaluated side by side.
* `sameAs_chain_assoc`, `sameAs_guarded_assoc`: two stages and a third.
* `flatten_nested`: nested lists and their flattening.
-/

namespace Switchboard.Stage

variable {W α β γ δ : Type}

/-! ## Trees that do the same -/

/-- On every input and in every world, both trees visit the same leaves in the same order, with the
same inputs and in the same worlds. -/
def Tree.SameVisits (t t' : Tree W α β) : Prop :=
  ∀ x w visits, (∃ r, t.Evaluates x w visits r) ↔ ∃ r, t'.Evaluates x w visits r

/-- The trees make the same visits and come to the same. -/
def Tree.SameAs (t t' : Tree W α β) : Prop := t.SameVisits t' ∧ t.run = t'.run

theorem Tree.Evaluates.run_eq {t : Tree W α β} {x : α} {w : W} {visits : List (Visit W)}
    {r : Run W Failure (Option β)} (h : t.Evaluates x w visits r) : (t.run x).run w = r := by
  obtain ⟨visits', h'⟩ := t.exists_evaluates x w
  exact (h.unique _ _ h').2.symm

/-- One evaluation of each is enough, as there is no other. -/
theorem sameVisits_of_exists {t t' : Tree W α β}
    (h : ∀ x w, ∃ visits r r', t.Evaluates x w visits r ∧ t'.Evaluates x w visits r') :
    t.SameVisits t' := by
  intro x w visits
  obtain ⟨visits₀, r₀, r₀', h₀, h₀'⟩ := h x w
  constructor
  · rintro ⟨r, hr⟩
    obtain ⟨rfl, -⟩ := hr.unique _ _ h₀
    exact ⟨r₀', h₀'⟩
  · rintro ⟨r, hr⟩
    obtain ⟨rfl, -⟩ := hr.unique _ _ h₀'
    exact ⟨r₀, h₀⟩

theorem sameAs_of_exists {t t' : Tree W α β}
    (h : ∀ x w, ∃ visits r, t.Evaluates x w visits r ∧ t'.Evaluates x w visits r) :
    t.SameAs t' := by
  constructor
  · apply sameVisits_of_exists
    intro x w
    obtain ⟨visits, r, ht, ht'⟩ := h x w
    exact ⟨visits, r, r, ht, ht'⟩
  · funext x
    apply Action.ext
    intro w
    obtain ⟨visits, r, ht, ht'⟩ := h x w
    rw [ht.run_eq, ht'.run_eq]

theorem halted_of_stops {r : Run W Failure (Option β)} (h : Stops r) : halted r = r := by
  rcases h.eq_error_or_none with ⟨e, w, log, rfl⟩ | ⟨w, log, rfl⟩ <;> rfl

theorem halted_halted (r : Run W Failure (Option β)) :
    (halted (halted r : Run W Failure (Option γ)) : Run W Failure (Option δ)) = halted r := by
  rcases r with ⟨e | y, w, log⟩ <;> rfl

theorem stops_behind {log : List LogEntry} {r : Run W Failure (Option β)} (h : Stops r) :
    Stops (behind log r) := h

theorem behind_behind (log log' : List LogEntry) (r : Run W Failure (Option β)) :
    behind log (behind log' r) = behind (log ++ log') r := by
  simp only [behind, List.append_assoc]

/-! ## Two stages and a third -/

/-- **Chains are associative.** -/
theorem sameAs_chain_assoc (a : Tree W α β) (b : Tree W β γ) (c : Tree W γ δ) :
    ((a.chain b).chain c).SameAs (a.chain (b.chain c)) := by
  apply sameAs_of_exists
  intro x w
  obtain ⟨va, ha⟩ := a.exists_evaluates x w
  rcases stops_or_yields ((a.run x).run w) with hstops | ⟨y, w₁, log₁, hrun⟩
  · have hboth : ((a.chain b).chain c).Evaluates x w va (halted (halted ((a.run x).run w))) :=
      .chain_halted (.chain_halted ha hstops) (stops_halted _)
    rw [halted_halted] at hboth
    exact ⟨va, _, hboth, .chain_halted ha hstops⟩
  rw [hrun] at ha
  obtain ⟨vb, hb⟩ := b.exists_evaluates y w₁
  rcases stops_or_yields ((b.run y).run w₁) with hstops | ⟨z, w₂, log₂, hrun⟩
  · exact ⟨va ++ vb, _, .chain_halted (.chain ha hb) (stops_behind hstops),
      .chain ha (.chain_halted hb hstops)⟩
  rw [hrun] at hb
  obtain ⟨vc, hc⟩ := c.exists_evaluates z w₂
  have hright := Tree.Evaluates.chain ha (Tree.Evaluates.chain hb hc)
  rw [behind_behind, ← List.append_assoc] at hright
  exact ⟨va ++ vb ++ vc, _, .chain (.chain ha hb) hc, hright⟩

/-- **Guards are associative.** -/
theorem sameAs_guarded_assoc (a : Tree W α β) (b : Tree W α γ) (c : Tree W α δ) :
    (c.guarded (b.guarded a)).SameAs ((c.guarded b).guarded a) := by
  apply sameAs_of_exists
  intro x w
  obtain ⟨va, ha⟩ := a.exists_evaluates x w
  rcases stops_or_yields ((a.run x).run w) with hstops | ⟨y, w₁, log₁, hrun⟩
  · have hboth : (c.guarded (b.guarded a)).Evaluates x w va (halted (halted ((a.run x).run w))) :=
      .guarded_halted (.guarded_halted ha hstops) (stops_halted _)
    rw [halted_halted] at hboth
    exact ⟨va, _, hboth, .guarded_halted ha hstops⟩
  rw [hrun] at ha
  obtain ⟨vb, hb⟩ := b.exists_evaluates x w₁
  rcases stops_or_yields ((b.run x).run w₁) with hstops | ⟨z, w₂, log₂, hrun⟩
  · exact ⟨va ++ vb, _, .guarded_halted (.guarded ha hb) (stops_behind hstops),
      .guarded ha (.guarded_halted hb hstops)⟩
  rw [hrun] at hb
  obtain ⟨vc, hc⟩ := c.exists_evaluates x w₂
  have hright := Tree.Evaluates.guarded ha (Tree.Evaluates.guarded hb hc)
  rw [behind_behind, ← List.append_assoc] at hright
  exact ⟨va ++ vb ++ vc, _, .guarded (.guarded ha hb) hc, hright⟩

/-! ## Lists of trees -/

/-- The trees as what a chain or a composite is made of. -/
def Trees.ofList : List (Tree W α α) → Trees W α
  | [] => .nil
  | t :: ts => .cons t (ofList ts)

/-- The composite of a list. -/
def composed (ts : List (Tree W α α)) : Tree W α α := .composeAll (.ofList ts)

/-- The chain of a list. -/
def chained (ts : List (Tree W α α)) : Tree W α α := .chainAll (.ofList ts)

section Lists

variable {pick : α → α} {ts ts' : List (Tree W α α)} {y z : α} {w w' : W}
  {visits visits' : List (Visit W)} {r : Run W Failure (Option α)} {log : List LogEntry}

theorem evaluates_ofList_append_of_stops
    (h : (Trees.ofList ts).Evaluates pick y w visits r) (hstops : Stops r) :
    (Trees.ofList (ts ++ ts')).Evaluates pick y w visits r := by
  induction ts generalizing y w visits r with
  | nil =>
    cases h
    exact absurd hstops not_stops
  | cons t ts ih =>
    cases h with
    | cons ht hrest => exact .cons ht (ih hrest hstops)
    | cons_halted ht hs => exact .cons_halted ht hs

theorem evaluates_ofList_append
    (h : (Trees.ofList ts).Evaluates pick y w visits ⟨.ok (some z), w', log⟩)
    (h' : (Trees.ofList ts').Evaluates pick z w' visits' r) :
    (Trees.ofList (ts ++ ts')).Evaluates pick y w (visits ++ visits') (behind log r) := by
  generalize hr : (⟨.ok (some z), w', log⟩ : Run W Failure (Option α)) = r₀ at h
  induction ts generalizing y w visits log r₀ with
  | nil =>
    cases h
    cases hr
    exact h'
  | cons t ts ih =>
    cases h with
    | @cons _ _ _ _ _ z₁ _ w₁ visits₁ visits₂ log₁ r₁ ht hrest =>
      rcases r₁ with ⟨outcome, w₂, log₂⟩
      obtain ⟨rfl, rfl, rfl⟩ : outcome = .ok (some z) ∧ w₂ = w' ∧ log = log₁ ++ log₂ := by
        simpa [behind, eq_comm] using hr
      rw [List.append_assoc, ← behind_behind]
      exact .cons ht (ih _ rfl hrest)
    | cons_halted ht hs =>
      rw [halted_of_stops hs] at hr
      rw [← hr] at hs
      exact absurd hs not_stops

theorem evaluates_singleton {t : Tree W α α} (h : t.Evaluates (pick y) w visits r) :
    (Trees.ofList [t]).Evaluates pick y w visits r := by
  rcases stops_or_yields r with hstops | ⟨z, w', log, rfl⟩
  · have hhalted : (Trees.ofList [t]).Evaluates pick y w visits (halted r) :=
      .cons_halted h hstops
    rw [halted_of_stops hstops] at hhalted
    exact hhalted
  · have hall := Trees.Evaluates.cons h (.nil pick z w')
    simp only [behind, List.append_nil] at hall
    exact hall

end Lists

/-! ## Nests -/

/-- Lists nested to any depth. -/
inductive Nest (L : Type 1) where
  | one (element : L)
  | all (elements : List (Nest L))

namespace Nest

variable {L : Type 1}

mutual

/-- The elements of a nest in order. -/
def flat : Nest L → List L
  | one l => [l]
  | all ns => flatAll ns

/-- The elements of a list of nests in order. -/
def flatAll : List (Nest L) → List L
  | [] => []
  | n :: ns => n.flat ++ flatAll ns

end

mutual

/-- The tree in which every list of a nest is put together by `join`. -/
def joined (join : List (Tree W α α) → Tree W α α) : Nest (Tree W α α) → Tree W α α
  | one t => t
  | all ns => join (joinedAll join ns)

/-- The trees of a list of nests. -/
def joinedAll (join : List (Tree W α α) → Tree W α α) : List (Nest (Tree W α α)) → List (Tree W α α)
  | [] => []
  | n :: ns => n.joined join :: joinedAll join ns

end

mutual

/-- Whether an empty list stands at the end of a nest. -/
def endsEmpty : Nest L → Bool
  | one _ => false
  | all ns => endsEmptyAll true ns

/-- Whether an empty list stands at the end of a list of nests, or, if there are none, in front of
it. -/
def endsEmptyAll : Bool → List (Nest L) → Bool
  | before, [] => before
  | _, n :: ns => endsEmptyAll n.endsEmpty ns

end

end Nest

/-- The run with its output, if there is one, replaced. -/
def mapOutput (f : α → α) (r : Run W Failure (Option α)) : Run W Failure (Option α) :=
  ⟨r.outcome.map (Option.map f), r.world, r.log⟩

theorem verdict_mapOutput (f : α → α) (r : Run W Failure (Option α)) :
    verdict (mapOutput f r) = verdict r := by
  rcases r with ⟨e | _ | y, w, log⟩ <;> rfl

theorem mapOutput_of_stops {r : Run W Failure (Option α)} (h : Stops r) (f : α → α) :
    mapOutput f r = r := by
  rcases h.eq_error_or_none with ⟨e, w, log, rfl⟩ | ⟨w, log, rfl⟩ <;> rfl

theorem mapOutput_id (r : Run W Failure (Option α)) : mapOutput (fun y => y) r = r := by
  rcases r with ⟨e | _ | y, w, log⟩ <;> rfl

/-- A run of what picks its inputs by `pick`, as it is if an empty list stands at the end. -/
def atEnd (pick : α → α) (empty : Bool) (r : Run W Failure (Option α)) :
    Run W Failure (Option α) := if empty then mapOutput pick r else r

theorem verdict_atEnd (pick : α → α) (empty : Bool) (r : Run W Failure (Option α)) :
    verdict (atEnd pick empty r) = verdict r := by
  cases empty with
  | false => rfl
  | true => exact verdict_mapOutput pick r

theorem atEnd_of_stops {r : Run W Failure (Option α)} (h : Stops r) (pick : α → α)
    (empty : Bool) : atEnd pick empty r = r := by
  cases empty with
  | false => rfl
  | true => exact mapOutput_of_stops h pick

/-- Lists of trees are joined: the elements run in turn, each on what `pick` makes of the output
before it. -/
structure Joins (join : List (Tree W α α) → Tree W α α) (pick : α → α) : Prop where
  pick_pick : ∀ y, pick (pick y) = pick y
  evaluates : ∀ {ts y w visits r}, (Trees.ofList ts).Evaluates pick (pick y) w visits r →
    (join ts).Evaluates (pick y) w visits r

theorem joins_composed (x : α) : Joins (composed : List (Tree W α α) → _) fun _ => x :=
  ⟨fun _ => rfl, fun h => .composeAll h⟩

theorem joins_chained : Joins (chained : List (Tree W α α) → _) fun y => y :=
  ⟨fun _ => rfl, fun h => .chainAll h⟩

section Joins

variable {join : List (Tree W α α) → Tree W α α} {pick : α → α} (hjoin : Joins join pick)

include hjoin

mutual

/-- A nest and its flattening make the same visits. -/
theorem Nest.exists_evaluates (n : Nest (Tree W α α)) (y : α) (w : W) : ∃ visits r,
    (Trees.ofList n.flat).Evaluates pick y w visits r ∧
      (n.joined join).Evaluates (pick y) w visits (atEnd pick n.endsEmpty r) := by
  match n with
  | .one t =>
    obtain ⟨visits, h⟩ := t.exists_evaluates (pick y) w
    exact ⟨visits, _, evaluates_singleton h, h⟩
  | .all ns =>
    obtain ⟨visits, r, hflat, hnest⟩ := Nest.exists_evaluatesAll ns true y w
    exact ⟨visits, r, hflat, hjoin.evaluates hnest⟩

theorem Nest.exists_evaluatesAll (ns : List (Nest (Tree W α α))) (empty : Bool) (y : α) (w : W) :
    ∃ visits r, (Trees.ofList (Nest.flatAll ns)).Evaluates pick y w visits r ∧
      (Trees.ofList (Nest.joinedAll join ns)).Evaluates pick (if empty then pick y else y) w visits
        (atEnd pick (Nest.endsEmptyAll empty ns) r) := by
  match ns with
  | [] =>
    refine ⟨[], _, .nil pick y w, ?_⟩
    cases empty with
    | false => exact .nil pick y w
    | true => exact .nil pick (pick y) w
  | n :: ns =>
    have hpick : pick (if empty then pick y else y) = pick y := by
      cases empty with
      | false => rfl
      | true => exact hjoin.pick_pick y
    obtain ⟨visits, r, hflat, hnest⟩ := n.exists_evaluates y w
    rw [← hpick] at hnest
    rcases stops_or_yields r with hstops | ⟨z, w', log, rfl⟩
    · rw [atEnd_of_stops hstops] at hnest
      have hhalted : (Trees.ofList (Nest.joinedAll join (n :: ns))).Evaluates pick
          (if empty then pick y else y) w visits (halted r) := .cons_halted hnest hstops
      rw [halted_of_stops hstops] at hhalted
      refine ⟨visits, r, evaluates_ofList_append_of_stops hflat hstops, ?_⟩
      rw [atEnd_of_stops hstops]
      exact hhalted
    · obtain ⟨visits', r', hflat', hnest'⟩ := Nest.exists_evaluatesAll ns n.endsEmpty z w'
      refine ⟨visits ++ visits', behind log r', evaluates_ofList_append hflat hflat', ?_⟩
      have hyields : atEnd pick n.endsEmpty (⟨.ok (some z), w', log⟩ : Run W Failure (Option α)) =
          ⟨.ok (some (if n.endsEmpty then pick z else z)), w', log⟩ := by
        cases n.endsEmpty <;> rfl
      have hbehind : atEnd pick (Nest.endsEmptyAll empty (n :: ns)) (behind log r') =
          behind log (atEnd pick (Nest.endsEmptyAll n.endsEmpty ns) r') := by
        rw [Nest.endsEmptyAll]
        cases Nest.endsEmptyAll n.endsEmpty ns <;> rfl
      rw [hyields] at hnest
      rw [hbehind]
      exact .cons hnest hnest'

end

/-- Nested lists are joined as their flattening is. -/
theorem exists_evaluates_nested {x : α} (hx : pick x = x) (ns : List (Nest (Tree W α α))) (w : W) :
    ∃ visits r, (join (Nest.joinedAll join ns)).Evaluates x w visits
        (atEnd pick (Nest.endsEmptyAll true ns) r) ∧
      (join (Nest.flatAll ns)).Evaluates x w visits r := by
  obtain ⟨visits, r, hflat, hnest⟩ := Nest.exists_evaluatesAll hjoin ns true x w
  refine ⟨visits, r, ?_, ?_⟩
  · rw [← hx]
    exact hjoin.evaluates hnest
  · rw [← hx]
    rw [← hx] at hflat
    exact hjoin.evaluates hflat

end Joins

/-! ## Nested lists and their flattening -/

/-- The first tree does what the second one does, with the input for its output if `hollow`. -/
structure Tree.SameBut (hollow : Bool) (t t' : Tree W α α) : Prop where
  visits : t.SameVisits t'
  verdict_eq : ∀ x w, verdict ((t.run x).run w) = verdict ((t'.run x).run w)
  world_eq : ∀ x w, ((t.run x).run w).world = ((t'.run x).run w).world
  log_eq : ∀ x w, ((t.run x).run w).log = ((t'.run x).run w).log
  run_eq : ∀ x w, (t.run x).run w = atEnd (fun _ => x) hollow ((t'.run x).run w)

theorem sameBut_of_exists {hollow : Bool} {t t' : Tree W α α}
    (h : ∀ x w, ∃ visits r, t.Evaluates x w visits (atEnd (fun _ => x) hollow r) ∧
      t'.Evaluates x w visits r) : t.SameBut hollow t' := by
  have hrun : ∀ x w, (t.run x).run w = atEnd (fun _ => x) hollow ((t'.run x).run w) := by
    intro x w
    obtain ⟨visits, r, ht, ht'⟩ := h x w
    rw [ht.run_eq, ht'.run_eq]
  refine ⟨sameVisits_of_exists ?_, ?_, ?_, ?_, hrun⟩
  · intro x w
    obtain ⟨visits, r, ht, ht'⟩ := h x w
    exact ⟨visits, _, r, ht, ht'⟩
  · intro x w
    rw [hrun, verdict_atEnd]
  · intro x w
    rw [hrun]
    cases hollow <;> rfl
  · intro x w
    rw [hrun]
    cases hollow <;> rfl

theorem sameBut_nested (ns : List (Nest (Tree W α α))) :
    (composed (Nest.joinedAll composed ns)).SameBut (Nest.endsEmptyAll true ns)
      (composed (Nest.flatAll ns)) :=
  sameBut_of_exists fun x w => exists_evaluates_nested (joins_composed x) rfl ns w

theorem sameAs_nested (ns : List (Nest (Tree W α α))) :
    (chained (Nest.joinedAll chained ns)).SameAs (chained (Nest.flatAll ns)) := by
  apply sameAs_of_exists
  intro x w
  obtain ⟨visits, r, hnest, hflat⟩ := exists_evaluates_nested joins_chained (x := x) rfl ns w
  have hend : atEnd (fun y => y) (Nest.endsEmptyAll true ns) r = r := by
    rw [atEnd, mapOutput_id, ite_self]
  rw [hend] at hnest
  exact ⟨visits, r, hnest, hflat⟩

namespace Nest

variable {L : Type 1}

/-- A list as an element between others. -/
def spliced (xs ys zs : List L) : List (Nest L) := xs.map one ++ [all (ys.map one)] ++ zs.map one

theorem flatAll_append (ns ms : List (Nest L)) :
    flatAll (ns ++ ms) = flatAll ns ++ flatAll ms := by
  induction ns with
  | nil => rfl
  | cons n ns ih => rw [List.cons_append, flatAll, flatAll, ih, List.append_assoc]

theorem flatAll_map_one (xs : List L) : flatAll (xs.map one) = xs := by
  induction xs with
  | nil => rfl
  | cons x xs ih => rw [List.map_cons, flatAll, ih, flat, List.singleton_append]

theorem flatAll_spliced (xs ys zs : List L) : flatAll (spliced xs ys zs) = xs ++ ys ++ zs := by
  have hlist : flatAll [all (ys.map one)] = ys := by
    rw [flatAll, flatAll, List.append_nil, flat, flatAll_map_one]
  rw [spliced, flatAll_append, flatAll_append, flatAll_map_one, flatAll_map_one, hlist]

theorem joinedAll_eq_map (join : List (Tree W α α) → Tree W α α) (ns : List (Nest (Tree W α α))) :
    joinedAll join ns = ns.map (joined join) := by
  induction ns with
  | nil => rfl
  | cons n ns ih => rw [joinedAll, ih, List.map_cons]

theorem joinedAll_spliced (join : List (Tree W α α) → Tree W α α) (xs ys zs : List (Tree W α α)) :
    joinedAll join (spliced xs ys zs) = xs ++ [join ys] ++ zs := by
  have hone : ∀ ts : List (Tree W α α), (ts.map one).map (joined join) = ts := by
    intro ts
    rw [List.map_map]
    exact List.map_id ts
  have hlist : joined join (all (ys.map one)) = join ys := by
    rw [joined, joinedAll_eq_map, hone]
  rw [joinedAll_eq_map, spliced, List.map_append, List.map_append, hone, hone, List.map_singleton,
    hlist]

theorem endsEmptyAll_append (empty : Bool) (ns ms : List (Nest L)) :
    endsEmptyAll empty (ns ++ ms) = endsEmptyAll (endsEmptyAll empty ns) ms := by
  induction ns generalizing empty with
  | nil => rfl
  | cons n ns ih => rw [List.cons_append, endsEmptyAll, ih, endsEmptyAll]

theorem endsEmptyAll_map_one (empty : Bool) (xs : List L) :
    endsEmptyAll empty (xs.map one) = (empty && xs.isEmpty) := by
  induction xs generalizing empty with
  | nil => exact (Bool.and_true empty).symm
  | cons x xs ih =>
    rw [List.map_cons, endsEmptyAll, ih, endsEmpty, List.isEmpty_cons, Bool.false_and,
      Bool.and_false]

theorem endsEmptyAll_spliced (xs ys zs : List L) :
    endsEmptyAll true (spliced xs ys zs) = (ys.isEmpty && zs.isEmpty) := by
  rw [spliced, endsEmptyAll_append, endsEmptyAll_append, endsEmptyAll_map_one, endsEmptyAll,
    endsEmptyAll, endsEmpty, endsEmptyAll_map_one, Bool.true_and]

end Nest

/-- Behind other stages, an empty composite at the end is hollow; where there are none the output is
the input anyway. -/
theorem sameBut_spliced (xs ys zs : List (Tree W α α)) :
    (composed (xs ++ [composed ys] ++ zs)).SameBut (!xs.isEmpty && ys.isEmpty && zs.isEmpty)
      (composed (xs ++ ys ++ zs)) := by
  have hnested := sameBut_nested (Nest.spliced xs ys zs)
  rw [Nest.joinedAll_spliced, Nest.flatAll_spliced, Nest.endsEmptyAll_spliced] at hnested
  cases xs with
  | cons x xs => simpa using hnested
  | nil =>
    refine { hnested with run_eq := ?_ }
    intro x w
    rw [hnested.run_eq]
    cases ys with
    | cons y ys => rfl
    | nil =>
      cases zs with
      | cons z zs => rfl
      | nil => rfl

/-- **Nested lists of stages and their flattening.**  A composite within a composite makes the same
visits as if its elements stood in its place, with the same verdict, world and reports; so does the
output agree, unless the inner one is empty, is the last and is not the only one, when the input
takes the place of the output.  A chain within a chain cannot be told from its elements.  The same
holds for lists nested to any depth, and chains and guards are associative. -/
theorem flatten_nested :
    (∀ xs ys zs : List (Tree W α α),
      (composed (xs ++ [composed ys] ++ zs)).SameBut (!xs.isEmpty && ys.isEmpty && zs.isEmpty)
        (composed (xs ++ ys ++ zs))) ∧
    (∀ xs ys zs : List (Tree W α α),
      (chained (xs ++ [chained ys] ++ zs)).SameAs (chained (xs ++ ys ++ zs))) ∧
    (∀ ns : List (Nest (Tree W α α)),
      (composed (Nest.joinedAll composed ns)).SameBut (Nest.endsEmptyAll true ns)
        (composed (Nest.flatAll ns))) ∧
    (∀ ns : List (Nest (Tree W α α)),
      (chained (Nest.joinedAll chained ns)).SameAs (chained (Nest.flatAll ns))) ∧
    (∀ (a : Tree W α β) (b : Tree W β γ) (c : Tree W γ δ),
      ((a.chain b).chain c).SameAs (a.chain (b.chain c))) ∧
    (∀ (a : Tree W α β) (b : Tree W α γ) (c : Tree W α δ),
      (c.guarded (b.guarded a)).SameAs ((c.guarded b).guarded a)) := by
  refine ⟨sameBut_spliced, ?_, sameBut_nested, sameAs_nested, sameAs_chain_assoc,
    sameAs_guarded_assoc⟩
  intro xs ys zs
  have hnested := sameAs_nested (Nest.spliced xs ys zs)
  rw [Nest.joinedAll_spliced, Nest.flatAll_spliced] at hnested
  exact hnested

/-- Here the empty composite shows. -/
example : let next : Tree Unit Nat Nat := .leaf (ofFunction fun n => .ok (some (n + 1)))
    ((composed [next, composed []]).run 1).run () = ⟨.ok (some 1), (), []⟩ ∧
      ((composed [next]).run 1).run () = ⟨.ok (some 2), (), []⟩ := ⟨rfl, rfl⟩

end Switchboard.Stage
