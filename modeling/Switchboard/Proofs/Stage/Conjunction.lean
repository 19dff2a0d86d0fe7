import Switchboard.Bot.Basic
import Switchboard.Proofs.Stage.Tree

/-!
# Lists of filters

A filter gives back its input or vetoes, and leaves the world as it is.  Of filters, a composite and
a chain do the same: they let an input pass iff every filter does.  So neither the order of the
filters nor how often each is in the list matters, nor which of them a bot has from the start.

* `FiltersIn`: a stage is a filter, in a world.
* `Conjunction`: what that comes to for a list.
* `filters_are_conjunctions`: all lists of filters, and the filters of a bot.
-/

namespace Switchboard.Stage

variable {W H M α : Type}

/-! ## Filters -/

/-- In the world, the stage gives back its input or vetoes, and leaves the world as it is.  It may
report what it does. -/
structure FiltersIn (w : W) (f : Stage W α α) : Prop where
  world_eq : ∀ x, ((f x).run w).world = w
  outcome_eq : ∀ x, ((f x).run w).outcome = .ok (some x) ∨ ((f x).run w).outcome = .ok none

/-- In the world, the stage lets the input pass. -/
def Accepts (w : W) (f : Stage W α α) (x : α) : Prop := ((f x).run w).outcome = .ok (some x)

theorem FiltersIn.logged {w : W} {f : Stage W α α} (h : FiltersIn w f) (name : Text) :
    FiltersIn w (f.logged name) := by
  constructor
  · intro x
    rw [logged_run]
    exact h.world_eq x
  · intro x
    rw [logged_run]
    exact h.outcome_eq x

theorem accepts_logged_iff {w : W} {f : Stage W α α} {name : Text} {x : α} :
    Accepts w (f.logged name) x ↔ Accepts w f x := by
  rw [Accepts, logged_run]
  exact Iff.rfl

theorem filtersIn_filter (p : α → Bool) (w : W) : FiltersIn w (filter p) := by
  constructor
  · intro x
    rfl
  · intro x
    show Except.ok (if p x then some x else none) = _ ∨ Except.ok (if p x then some x else none) = _
    cases p x with
    | true => exact .inl rfl
    | false => exact .inr rfl

theorem filtersIn_roomCheck (w : World H M) : FiltersIn w roomCheck := by
  constructor
  · intro record
    rfl
  · intro record
    rw [roomCheck_run]
    cases w.config.accepts record.channel with
    | true => exact .inl rfl
    | false => exact .inr rfl

theorem accepts_roomCheck_iff {w : World H M} {record : Record} :
    Accepts w roomCheck record ↔ w.config.accepts record.channel = true := by
  rw [Accepts, roomCheck_run]
  cases w.config.accepts record.channel <;> simp

theorem filtersIn_commandFilter (w : World H M) : FiltersIn w commandFilter := by
  constructor
  · intro record
    rfl
  · intro record
    rw [commandFilter_run, World.isCommand?]
    cases w.matchedPrefix? record.message with
    | some p => exact .inl rfl
    | none => exact .inr rfl

theorem accepts_commandFilter_iff {w : World H M} {record : Record} :
    Accepts w commandFilter record ↔ (w.isCommand? record).isSome = true := by
  rw [Accepts, commandFilter_run, World.isCommand?]
  cases w.matchedPrefix? record.message <;> simp

/-! ## Filters one after the other -/

section Lists

variable {w : W} {x : α} {pick : α → α} {f : Stage W α α} {stages : List (Stage W α α)}

theorem FiltersIn.run_eq_of_accepts (h : FiltersIn w f) (hx : Accepts w f x) :
    ∃ log, (f x).run w = ⟨.ok (some x), w, log⟩ := by
  rcases hrun : (f x).run w with ⟨outcome, w', log⟩
  have hworld := h.world_eq x
  rw [Accepts, hrun] at hx
  rw [hrun] at hworld
  cases hx
  cases hworld
  exact ⟨log, rfl⟩

theorem FiltersIn.stops_of_not_accepts (h : FiltersIn w f) (hx : ¬Accepts w f x) :
    ((f x).run w).outcome = .ok none ∧ Stops ((f x).run w) := by
  have hnone := (h.outcome_eq x).resolve_left hx
  refine ⟨hnone, ?_⟩
  intro y hy
  rw [hnone] at hy
  cases hy

/-- On the way from filter to filter the input stays what it was, however the next input is
picked. -/
theorem inTurn_run_of_filters (h : ∀ f ∈ stages, FiltersIn w f) (hpick : pick x = x) :
    (inTurn pick stages x).run w = (inTurn (fun y => y) stages x).run w := by
  induction stages with
  | nil => rfl
  | cons f rest ih =>
    obtain ⟨hf, hrest⟩ := List.forall_mem_cons.mp h
    rw [inTurn, inTurn, hpick]
    by_cases hx : Accepts w f x
    · obtain ⟨log, hrun⟩ := hf.run_eq_of_accepts hx
      rw [onward_run_of_some hrun, onward_run_of_some hrun, ih hrest]
    · have hstops := (hf.stops_of_not_accepts hx).2
      rw [onward_run_of_stops _ hstops, onward_run_of_stops _ hstops]

/-- Filters one after the other are a filter, which accepts what all of them accept. -/
theorem inTurn_filters (h : ∀ f ∈ stages, FiltersIn w f) :
    ((inTurn (fun y => y) stages x).run w).world = w ∧
      (((inTurn (fun y => y) stages x).run w).outcome = .ok (some x) ∧
          (∀ f ∈ stages, Accepts w f x) ∨
        ((inTurn (fun y => y) stages x).run w).outcome = .ok none ∧
          ∃ f ∈ stages, ¬Accepts w f x) := by
  induction stages with
  | nil => exact ⟨rfl, .inl ⟨rfl, List.forall_mem_nil _⟩⟩
  | cons f rest ih =>
    obtain ⟨hf, hrest⟩ := List.forall_mem_cons.mp h
    rw [inTurn]
    by_cases hx : Accepts w f x
    · obtain ⟨log, hrun⟩ := hf.run_eq_of_accepts hx
      rw [onward_run_of_some hrun]
      obtain ⟨hworld, ⟨hsome, hall⟩ | ⟨hnone, g, hg, hgx⟩⟩ := ih hrest
      · exact ⟨hworld, .inl ⟨hsome, List.forall_mem_cons.mpr ⟨hx, hall⟩⟩⟩
      · exact ⟨hworld, .inr ⟨hnone, g, List.mem_cons_of_mem f hg, hgx⟩⟩
    · obtain ⟨hnone, hstops⟩ := hf.stops_of_not_accepts hx
      rw [onward_run_of_stops _ hstops, halted, hnone]
      exact ⟨hf.world_eq x, .inr ⟨rfl, f, List.mem_cons_self, hx⟩⟩

/-- Filters that report nothing report nothing one after the other. -/
theorem inTurn_log_of_filters (h : ∀ f ∈ stages, FiltersIn w f)
    (hquiet : ∀ f ∈ stages, ((f x).run w).log = []) :
    ((inTurn (fun y => y) stages x).run w).log = [] := by
  induction stages with
  | nil => rfl
  | cons f rest ih =>
    obtain ⟨hf, hrest⟩ := List.forall_mem_cons.mp h
    obtain ⟨hlog, hlogs⟩ := List.forall_mem_cons.mp hquiet
    rw [inTurn]
    by_cases hx : Accepts w f x
    · obtain ⟨log, hrun⟩ := hf.run_eq_of_accepts hx
      obtain rfl : log = [] := by
        rw [hrun] at hlog
        exact hlog
      rw [onward_run_of_some hrun]
      exact ih hrest hlogs
    · rw [onward_run_of_stops _ (hf.stops_of_not_accepts hx).2]
      exact hlog

end Lists

/-! ## Conjunctions -/

/-- The outcome of a list of filters is that every one of them accepts. -/
structure Conjunction (w : W) (stages : List (Stage W α α)) (x : α) : Prop where
  same : (composeAll stages x).run w = (chainAll stages x).run w
  world_eq : ((chainAll stages x).run w).world = w
  /-- The input itself comes out iff every filter accepts it, -/
  accepts_iff : ((chainAll stages x).run w).outcome = .ok (some x) ↔ ∀ f ∈ stages, Accepts w f x
  /-- and there is a veto otherwise. -/
  vetoes_iff : ((chainAll stages x).run w).outcome = .ok none ↔ ¬∀ f ∈ stages, Accepts w f x
  log_eq_nil : (∀ f ∈ stages, ((f x).run w).log = []) → ((chainAll stages x).run w).log = []

theorem chainAll_eq_inTurn (stages : List (Stage W α α)) (x : α) :
    chainAll stages x = inTurn (fun y => y) stages x := linkAll_eq_inTurn (fun _ y => y) stages x

theorem conjunction_of_filters {w : W} {stages : List (Stage W α α)}
    (h : ∀ f ∈ stages, FiltersIn w f) (x : α) : Conjunction w stages x := by
  have hcompose : composeAll stages x = inTurn (fun _ => x) stages x :=
    linkAll_eq_inTurn (fun x _ => x) stages x
  have hsame : (composeAll stages x).run w = (chainAll stages x).run w := by
    rw [hcompose, chainAll_eq_inTurn]
    exact inTurn_run_of_filters h rfl
  have hquiet : (∀ f ∈ stages, ((f x).run w).log = []) → ((chainAll stages x).run w).log = [] := by
    rw [chainAll_eq_inTurn]
    exact inTurn_log_of_filters h
  obtain ⟨hworld, hcases⟩ := inTurn_filters (x := x) h
  rw [← chainAll_eq_inTurn] at hworld hcases
  refine ⟨hsame, hworld, ?_, ?_, hquiet⟩
  · rcases hcases with ⟨hsome, hall⟩ | ⟨hnone, f, hf, hx⟩
    · exact ⟨fun _ => hall, fun _ => hsome⟩
    · rw [hnone]
      exact ⟨fun heq => (nomatch heq), fun hall => absurd (hall f hf) hx⟩
  · rcases hcases with ⟨hsome, hall⟩ | ⟨hnone, f, hf, hx⟩
    · rw [hsome]
      exact ⟨fun heq => (nomatch heq), fun hnot => absurd hall hnot⟩
    · exact ⟨fun _ hall => hx (hall f hf), fun _ => hnone⟩

/-- Lists with the same filters in them have the same outcome. -/
theorem outcome_eq_of_mem_iff {w : W} {stages stages' : List (Stage W α α)}
    (h : ∀ f ∈ stages, FiltersIn w f) (hmem : ∀ f, f ∈ stages' ↔ f ∈ stages) (x : α) :
    ((chainAll stages' x).run w).outcome = ((chainAll stages x).run w).outcome := by
  have h' : ∀ f ∈ stages', FiltersIn w f := fun f hf => h f ((hmem f).mp hf)
  have hall : (∀ f ∈ stages', Accepts w f x) ↔ ∀ f ∈ stages, Accepts w f x :=
    forall_congr' fun f => imp_congr_left (hmem f)
  by_cases hx : ∀ f ∈ stages, Accepts w f x
  · rw [(conjunction_of_filters h x).accepts_iff.mpr hx,
      (conjunction_of_filters h' x).accepts_iff.mpr (hall.mpr hx)]
  · rw [(conjunction_of_filters h x).vetoes_iff.mpr hx,
      (conjunction_of_filters h' x).vetoes_iff.mpr fun hx' => hx (hall.mp hx')]

/-! ## Filters of bots -/

theorem filtersIn_usualFilters (w : World H M) :
    ∀ f ∈ (usualFilters : List (Stage (World H M) Record Record)), FiltersIn w f := by
  intro f hf
  rcases List.mem_cons.mp hf with rfl | hf
  · exact (filtersIn_roomCheck w).logged _
  · rw [List.mem_singleton.mp hf]
    exact (filtersIn_commandFilter w).logged _

theorem accepts_usualFilters_iff {w : World H M} {record : Record} :
    (∀ f ∈ usualFilters, Accepts w f record) ↔
      w.config.accepts record.channel = true ∧ (w.isCommand? record).isSome = true := by
  rw [usualFilters, List.forall_mem_cons, List.forall_mem_singleton, accepts_logged_iff,
    accepts_logged_iff, accepts_roomCheck_iff, accepts_commandFilter_iff]

theorem filtersIn_build (meaning : Meaning H M) {o : Bot.Options H M} {w : World H M}
    (h : ∀ f ∈ o.filters, FiltersIn w f) : ∀ f ∈ (Bot.build meaning o).filters, FiltersIn w f := by
  intro f hf
  rcases List.mem_append.mp hf with hf | hf
  · cases husual : o.usualStages with
    | false =>
      rw [husual] at hf
      cases hf
    | true =>
      rw [husual] at hf
      exact filtersIn_usualFilters w f hf
  · exact h f hf

theorem accepts_build_iff (meaning : Meaning H M) {o : Bot.Options H M} {w : World H M}
    {record : Record} : (∀ f ∈ (Bot.build meaning o).filters, Accepts w f record) ↔
      (o.usualStages = true →
        w.config.accepts record.channel = true ∧ (w.isCommand? record).isSome = true) ∧
      ∀ f ∈ o.filters, Accepts w f record := by
  have hfilters : (Bot.build meaning o).filters =
      (if o.usualStages then usualFilters else []) ++ o.filters := rfl
  rw [hfilters, List.forall_mem_append]
  apply and_congr_left'
  cases o.usualStages with
  | false => simp
  | true => simpa using accepts_usualFilters_iff

/-- **Lists of filters are conjunctions.**  Of filters, a composite and a chain give the same, and
what they give depends on nothing but which filters there are.  A bot lets a record on to its
consumer iff the usual filters, if it has them, and all that were added accept it; and for two bots
with the same filters in all, however these came to them, the outcome is the same. -/
theorem filters_are_conjunctions :
    (∀ {W α : Type} {w : W} {stages : List (Stage W α α)}, (∀ f ∈ stages, FiltersIn w f) → ∀ x,
      Conjunction w stages x ∧
      ∀ stages' : List (Stage W α α), (∀ f, f ∈ stages' ↔ f ∈ stages) →
        Conjunction w stages' x ∧
        ((chainAll stages' x).run w).outcome = ((chainAll stages x).run w).outcome) ∧
    ∀ {H M : Type} (meaning : Meaning H M) {w : World H M} {o : Bot.Options H M},
      (∀ f ∈ o.filters, FiltersIn w f) → ∀ record,
      (((Bot.build meaning o).filter record).run w).world = w ∧
      ((((Bot.build meaning o).filter record).run w).outcome = .ok (some record) ↔
        (o.usualStages = true →
          w.config.accepts record.channel = true ∧ (w.isCommand? record).isSome = true) ∧
        ∀ f ∈ o.filters, Accepts w f record) ∧
      ∀ o' : Bot.Options H M,
        (∀ f, f ∈ (Bot.build meaning o').filters ↔ f ∈ (Bot.build meaning o).filters) →
        (((Bot.build meaning o').filter record).run w).outcome =
          (((Bot.build meaning o).filter record).run w).outcome := by
  constructor
  · intro W α w stages h x
    refine ⟨conjunction_of_filters h x, ?_⟩
    intro stages' hmem
    exact ⟨conjunction_of_filters (fun f hf => h f ((hmem f).mp hf)) x,
      outcome_eq_of_mem_iff h hmem x⟩
  · intro H M meaning w o h record
    have hall := filtersIn_build meaning h
    have hconj := conjunction_of_filters hall record
    rw [Bot.filter, hconj.same]
    refine ⟨hconj.world_eq, hconj.accepts_iff.trans (accepts_build_iff meaning), ?_⟩
    intro o' hmem
    have hall' : ∀ f ∈ (Bot.build meaning o').filters, FiltersIn w f :=
      fun f hf => hall f ((hmem f).mp hf)
    rw [Bot.filter, (conjunction_of_filters hall' record).same]
    exact outcome_eq_of_mem_iff hall hmem record

/-- Two bounds, of which one is asked for twice the other time; and a bot of the usual stages with
one more filter, beside one that is given all three as its own. -/
theorem filters_are_conjunctions_added :
    (composeAll [filter (2 < ·), filter (· < 9)] 5).run () =
      (chainAll [filter (2 < ·), filter (· < 9)] 5).run () ∧
    ((chainAll [filter (· < 9), filter (2 < ·), filter (· < 9)] 5).run ()).outcome =
      .ok (some 5) ∧
    let short : Stage (World Unit Unit) Record Record := filter fun r => r.message.length < 9
    let ping : Record := { channel := "global".toList, message := "!ping".toList }
    let silent : Meaning Unit Unit := fun _ _ => return .silent
    (((Bot.build silent { filters := [short] }).filter ping).run { memory := () }).outcome =
      .ok (some ping) ∧
    (((Bot.build silent { usualStages := false, filters := short :: usualFilters }).filter ping).run
      { memory := () }).outcome = .ok (some ping) := by
  obtain ⟨hlists, hbots⟩ := filters_are_conjunctions
  have hbounds : ∀ f ∈ [filter (2 < ·), filter (· < 9)], FiltersIn () f := by
    simp [filtersIn_filter]
  obtain ⟨hconj, hlist⟩ := hlists hbounds 5
  have hmem : ∀ f : Stage Unit Nat Nat,
      f ∈ [filter (· < 9), filter (2 < ·), filter (· < 9)] ↔
        f ∈ [filter (2 < ·), filter (· < 9)] := by
    simp only [List.mem_cons, List.not_mem_nil, or_false]
    grind
  refine ⟨hconj.same, (hlist _ hmem).2.trans rfl, ?_⟩
  intro short ping silent
  have hshort : ∀ f ∈ [short], FiltersIn { memory := () } f := by
    simp [short, filtersIn_filter]
  obtain ⟨-, haccepts, hother⟩ := hbots silent (o := { filters := [short] }) hshort ping
  have hping : (((Bot.build silent { filters := [short] }).filter ping).run
      { memory := () }).outcome = .ok (some ping) := by
    refine haccepts.mpr ⟨fun _ => ⟨by decide, by decide⟩, ?_⟩
    intro f hf
    rw [List.mem_singleton.mp hf]
    rfl
  have hsplit : ∀ f, f ∈ short :: usualFilters ↔ f ∈ usualFilters ++ [short] := by
    intro f
    rw [List.mem_cons, List.mem_append, List.mem_singleton, or_comm]
  have hother := hother { usualStages := false, filters := short :: usualFilters } hsplit
  exact ⟨hping, hother.trans hping⟩

end Switchboard.Stage
