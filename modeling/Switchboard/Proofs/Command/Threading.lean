import Switchboard.Proofs.Command.Append
import Switchboard.Proofs.Command.Invocation
import Switchboard.Proofs.Stage.Alike

/-!
# Only what is passed on matters

Two pipes run side by side.  Where they call handlers, the handlers do the same, except that before
the last segment their answers may differ in what is not passed on: the channel of a redirected text,
the further items of an array, or that there is an answer of one kind and not of another.  Then the
pipes come to the same.

* `PassesOn`: what an answer passes on, case by case; `SameThreading` for two answers.
* `SameUpToThreading`: pipes whose handlers differ so.
* `alike_step`: a step keeps pipes alike.
* `alike_parsePiped`: pipes that differ so are alike.
* `exists_last_call`: what a pipe answers is the answer of the last segment's handler.
-/

namespace Switchboard

variable {H H₁ H₂ M : Type}

/-! ## What answers pass on -/

/-- What an answer passes on. -/
inductive PassesOn : CommandResult → Threaded → Prop where
  | silent : PassesOn .silent .nothing
  | null : PassesOn (.data .null) .nothing
  | reply (t : Text) : PassesOn (.reply t) (.text t)
  | redirect (t channel : Text) : PassesOn (.redirect t channel) (.text t)
  | string (t : Text) : PassesOn (.data (.string t)) (.text t)
  | stringFirst (t : Text) (vs : List Json) : PassesOn (.data (.array (.string t :: vs))) (.text t)
  /-- The first item is neither null nor a string, and its JSON text is passed on. -/
  | valueFirst (v : Json) (vs : List Json) : v ≠ .null → (∀ t, v ≠ .string t) →
      PassesOn (.data (.array (v :: vs))) (.text v.write)
  | unthreadable {answer : CommandResult} : answer.Halting → PassesOn answer .halt

/-- The answers pass on the same. -/
def SameThreading (a b : CommandResult) : Prop := ∃ passed, PassesOn a passed ∧ PassesOn b passed

theorem threaded_eq_halt_iff {answer : CommandResult} :
    answer.threaded = .halt ↔ answer.Halting := by
  rw [← extra?_answered_eq_none_iff, Progress.extra?_answered]
  cases answer.threaded <;> simp [Threaded.extra?]

theorem passesOn_threaded (answer : CommandResult) : PassesOn answer answer.threaded := by
  have hhalt (h : answer.threaded = .halt) : PassesOn answer .halt :=
    .unthreadable (threaded_eq_halt_iff.mp h)
  cases answer with
  | silent => exact .silent
  | reply t => exact .reply t
  | redirect t channel => exact .redirect t channel
  | data value =>
    cases value with
    | null => exact .null
    | string t => exact .string t
    | array items =>
      cases items with
      | nil => exact hhalt rfl
      | cons v vs =>
        cases v with
        | null => exact hhalt rfl
        | string t => exact .stringFirst t vs
        | _ => exact .valueFirst _ vs nofun nofun
    | _ => exact hhalt rfl

theorem passesOn_iff {answer : CommandResult} {passed : Threaded} :
    PassesOn answer passed ↔ answer.threaded = passed := by
  constructor
  · intro h
    cases h with
    | valueFirst v vs hnull hstring =>
      cases v with
      | null => exact absurd rfl hnull
      | string t => exact absurd rfl (hstring t)
      | _ => rfl
    | unthreadable h => exact threaded_eq_halt_iff.mpr h
    | _ => rfl
  · rintro rfl
    exact passesOn_threaded answer

namespace SameThreading

theorem threaded_eq {a b : CommandResult} (h : SameThreading a b) : a.threaded = b.threaded := by
  obtain ⟨passed, ha, hb⟩ := h
  rw [passesOn_iff.mp ha, passesOn_iff.mp hb]

theorem of_threaded_eq {a b : CommandResult} (h : a.threaded = b.threaded) : SameThreading a b :=
  ⟨b.threaded, passesOn_iff.mpr h, passesOn_threaded b⟩

theorem refl (a : CommandResult) : SameThreading a a := of_threaded_eq rfl

/-- The channel of a redirected text is not passed on. -/
theorem redirect (t channel channel' : Text) :
    SameThreading (.redirect t channel) (.redirect t channel') :=
  of_threaded_eq rfl

/-- Of an array only the first item is passed on. -/
theorem array_cons (v : Json) (vs vs' : List Json) :
    SameThreading (.data (.array (v :: vs))) (.data (.array (v :: vs'))) := by
  apply of_threaded_eq
  cases v <;> rfl

end SameThreading

/-! ## What messages come to -/

/-- The resolutions are the same but for the handlers. -/
inductive Resolution.Alike : Resolution H₁ → Resolution H₂ → Prop where
  | unknown (name : Text) : Alike (.unknown name) (.unknown name)
  | elsewhere (name channel : Text) : Alike (.elsewhere name channel) (.elsewhere name channel)
  | call (name : Text) {entry₁ : Entry H₁} {entry₂ : Entry H₂} (invocation : Invocation) :
      entry₁.outline = entry₂.outline →
      Alike (.call name entry₁ invocation) (.call name entry₂ invocation)

theorem Resolution.Alike.event_eq {r₁ : Resolution H₁} {r₂ : Resolution H₂} (h : r₁.Alike r₂) :
    r₁.event = r₂.event := by
  cases h <;> rfl

/-- What a message comes to does not depend on handlers. -/
theorem SameButHandlers.resolve {w₁ : World H₁ M} {w₂ : World H₂ M} (h : SameButHandlers w₁ w₂)
    (message : Record) (extra : List Text) :
    (w₁.resolve message extra).Alike (w₂.resolve message extra) := by
  obtain ⟨name, own, hwords₂⟩ : ∃ name own, words (w₂.body message.message) = (name, own) :=
    ⟨_, _, rfl⟩
  have hwords₁ : words (w₁.body message.message) = (name, own) := by rw [h.body, hwords₂]
  have hlookup := h.lookup name
  cases hlookup₁ : w₁.registry.lookup name with
  | none =>
    rw [hlookup₁] at hlookup
    have hlookup₂ := Option.map_eq_none_iff.mp hlookup.symm
    rw [resolve_of_lookup_eq_none hwords₁ hlookup₁, resolve_of_lookup_eq_none hwords₂ hlookup₂]
    exact .unknown name
  | some entry₁ =>
    rw [hlookup₁] at hlookup
    obtain ⟨entry₂, hlookup₂, houtline⟩ := Option.map_eq_some_iff.mp hlookup.symm
    have hglobal : entry₂.global = entry₁.global := congrArg Entry.global houtline
    by_cases hpass : entry₁.global = true ∨ message.channel = w₁.config.room
    · have hpass₂ : entry₂.global = true ∨ message.channel = w₂.config.room := by
        rw [hglobal, ← h.config]
        exact hpass
      rw [resolve_of_pass hwords₁ hlookup₁ hpass, resolve_of_pass hwords₂ hlookup₂ hpass₂, h.body]
      exact .call name _ houtline.symm
    · rw [not_or, Bool.not_eq_true] at hpass
      have helsewhere : message.channel ≠ w₂.config.room := by
        rw [← h.config]
        exact hpass.2
      rw [resolve_of_elsewhere hwords₁ hlookup₁ hpass.1 hpass.2,
        resolve_of_elsewhere hwords₂ hlookup₂ (hglobal.trans hpass.1) helsewhere]
      exact .elsewhere name message.channel

/-! ## Calls -/

/-- What the handler of a call does. -/
def Call.run (meaning : Meaning H M) (c : Call H M) : Run (World H M) Failure CommandResult :=
  (meaning c.entry c.invocation).run c.world

/-- The call for the next segment of a pipe, if a handler is called for it. -/
def PipeState.calls (message : Record) (s : PipeState H M) (segment : Text) : List (Call H M) :=
  match s.progress.extra? with
  | none => []
  | some extra => (s.world.resolve (message.withMessage segment) extra).calls s.world

theorem PipeState.calls_of_some {message : Record} {s : PipeState H M} {extra : List Text}
    (h : s.progress.extra? = some extra) (segment : Text) :
    s.calls message segment =
      (s.world.resolve (message.withMessage segment) extra).calls s.world := by
  rw [calls, h]

theorem PipeState.calls_of_none {message : Record} {s : PipeState H M}
    (h : s.progress.extra? = none) (segment : Text) : s.calls message segment = [] := by
  rw [calls, h]

/-- The texts of the commands in a message: its segments, if it is a pipe, and else its own. -/
def commandTexts (pipes : Bool) (text : Text) : List Text :=
  if pipes && text.contains '|' then segments text else [text]

theorem commandTexts_ne_nil (pipes : Bool) (text : Text) : commandTexts pipes text ≠ [] := by
  rw [commandTexts]
  split
  · exact segments_ne_nil text
  · exact List.cons_ne_nil text []

theorem commandTexts_eq_segments {pipes : Bool} {text : Text} (h : pipes = true ∧ '|' ∈ text) :
    commandTexts pipes text = segments text :=
  if_pos (pipes_and_contains_bar_iff.mpr h)

open PipeState

/-- **Every message runs as its commands one after the other**, be it a pipe or not. -/
theorem parsePiped_run_commandTexts (meaning : Meaning H M) (message : Record) (w : World H M) :
    (parsePiped meaning message).run w =
      (behind meaning message w (commandTexts w.settings.pipes message.message)).run := by
  by_cases hpipe : w.settings.pipes = true ∧ '|' ∈ message.message
  · rw [parsePiped_run meaning message hpipe.1 hpipe.2, commandTexts_eq_segments hpipe]
  · have hone : runPipe meaning message [message.message] = parse meaning message [] := bind_pure _
    rw [parsePiped_run_of_not_pipe meaning message hpipe, commandTexts,
      if_neg (mt pipes_and_contains_bar_iff.mp hpipe), ← runPipe_run, hone]

theorem consume_run (meaning : Meaning H M) (message : Record) (w : World H M) :
    (consume meaning message).run w =
      ⟨((parsePiped meaning message).run w).outcome, ((parsePiped meaning message).run w).world,
        ⟨.consuming message, none⟩ :: ((parsePiped meaning message).run w).log⟩ :=
  rfl

/-! ## Pipes side by side -/

/-- How far the answers to a segment may differ before the segments after it: in what is not passed
on, if there are any, and else not at all. -/
def MayDiffer : List Text → CommandResult → CommandResult → Prop
  | [] => Eq
  | _ :: _ => SameThreading

theorem MayDiffer.refl (after : List Text) (answer : CommandResult) :
    MayDiffer after answer answer := by
  cases after with
  | nil => exact Eq.refl answer
  | cons next rest => exact SameThreading.refl answer

/-- Where both runs of a message call a handler for a segment, with the same invocation, the handlers
do the same; before the last segment, their answers may differ in what is not passed on. -/
def SameUpToThreading (meaning₁ : Meaning H₁ M) (meaning₂ : Meaning H₂ M) (message : Record)
    (w₁ : World H₁ M) (w₂ : World H₂ M) : Prop :=
  ∀ before segment after, commandTexts w₁.settings.pipes message.message = before ++ segment :: after →
    ∀ c₁ ∈ (behind meaning₁ message w₁ before).calls message segment,
    ∀ c₂ ∈ (behind meaning₂ message w₂ before).calls message segment,
    c₁.invocation = c₂.invocation →
    Run.Alike SameButHandlers (MayDiffer after) (c₁.run meaning₁) (c₂.run meaning₂)

/-- Pipes that have come equally far, with last answers related by `R`. -/
inductive Progress.Alike (R : CommandResult → CommandResult → Prop) : Progress → Progress → Prop where
  | fresh : Alike R .fresh .fresh
  | answered {a b : CommandResult} : R a b → Alike R (.answered a) (.answered b)
  | halted : Alike R .halted .halted
  | failed (e : Failure) : Alike R (.failed e) (.failed e)

/-- Pipes that have come equally far, in worlds that differ in their handlers only, and have reported
the same. -/
structure PipeState.Alike (R : CommandResult → CommandResult → Prop) (s₁ : PipeState H₁ M)
    (s₂ : PipeState H₂ M) : Prop where
  progress : s₁.progress.Alike R s₂.progress
  world : SameButHandlers s₁.world s₂.world
  log : s₁.log = s₂.log

theorem Run.Alike.progress {S : World H₁ M → World H₂ M → Prop}
    {R : CommandResult → CommandResult → Prop} {r₁ : Run (World H₁ M) Failure CommandResult}
    {r₂ : Run (World H₂ M) Failure CommandResult} (h : r₁.Alike S R r₂) :
    (Progress.ofOutcome r₁.outcome).Alike R (Progress.ofOutcome r₂.outcome) := by
  cases h with
  | ok hab _ => exact .answered hab
  | error _ => exact .failed _

theorem PipeState.Alike.run {s₁ : PipeState H₁ M} {s₂ : PipeState H₂ M} (h : s₁.Alike Eq s₂) :
    Run.Alike SameButHandlers Eq s₁.run s₂.run := by
  have houtcome : s₁.progress.outcome = s₂.progress.outcome := by
    obtain ⟨hprogress, -, -⟩ := h
    generalize s₁.progress = p₁ at hprogress ⊢
    generalize s₂.progress = p₂ at hprogress ⊢
    cases hprogress with
    | answered hab => rw [hab]
    | _ => rfl
  rw [PipeState.run, PipeState.run, houtcome, h.log]
  exact .of_ends h.world

theorem Progress.Alike.extra?_eq {p₁ p₂ : Progress} (h : p₁.Alike SameThreading p₂) :
    p₁.extra? = p₂.extra? := by
  cases h with
  | answered hab => rw [extra?_answered, extra?_answered, hab.threaded_eq]
  | _ => rfl

section Pipes

variable {meaning₁ : Meaning H₁ M} {meaning₂ : Meaning H₂ M} {message : Record}
  {R : CommandResult → CommandResult → Prop}

/-- Alike pipes call handlers of the same commands, and with the same invocations. -/
theorem PipeState.Alike.calls_eq {s₁ : PipeState H₁ M} {s₂ : PipeState H₂ M}
    (h : s₁.Alike SameThreading s₂) (segment : Text) :
    (s₁.calls message segment).map (fun c => (c.entry.outline, c.invocation)) =
      (s₂.calls message segment).map fun c => (c.entry.outline, c.invocation) := by
  cases hextra : s₂.progress.extra? with
  | none => rw [calls_of_none hextra, calls_of_none (h.progress.extra?_eq.trans hextra)]; rfl
  | some extra =>
    have hresolve := h.world.resolve (message.withMessage segment) extra
    rw [calls_of_some hextra, calls_of_some (h.progress.extra?_eq.trans hextra)]
    generalize s₁.world.resolve (message.withMessage segment) extra = r₁ at hresolve ⊢
    generalize s₂.world.resolve (message.withMessage segment) extra = r₂ at hresolve ⊢
    cases hresolve with
    | call name invocation houtline => simp [Resolution.calls, houtline]
    | _ => rfl

theorem alike_act (hsilent : R .silent .silent) {r₁ : Resolution H₁} {r₂ : Resolution H₂}
    {w₁ : World H₁ M} {w₂ : World H₂ M} (h : r₁.Alike r₂) (hw : SameButHandlers w₁ w₂)
    (hcalls : ∀ c₁ ∈ r₁.calls w₁, ∀ c₂ ∈ r₂.calls w₂, c₁.invocation = c₂.invocation →
      Run.Alike SameButHandlers R (c₁.run meaning₁) (c₂.run meaning₂)) :
    Run.Alike SameButHandlers R ((r₁.act meaning₁).run w₁) ((r₂.act meaning₂).run w₂) := by
  cases h with
  | unknown name => exact .pure hsilent hw
  | elsewhere name channel => exact .pure hsilent hw
  | call name invocation houtline =>
    exact (hcalls _ List.mem_cons_self _ List.mem_cons_self rfl).mapError (Failure.command name)

/-- Pipes that do not run their next segment stay alike, whatever answers kept them from it. -/
theorem PipeState.Alike.stop {s₁ : PipeState H₁ M} {s₂ : PipeState H₂ M}
    (h : s₁.Alike SameThreading s₂) (segment : Text) :
    (s₁.stop segment).Alike R (s₂.stop segment) := by
  obtain ⟨p₁, w₁, log₁⟩ := s₁
  obtain ⟨p₂, w₂, log₂⟩ := s₂
  obtain ⟨hprogress, hworld, rfl⟩ := h
  cases hprogress with
  | fresh => exact ⟨.fresh, hworld, rfl⟩
  | answered _ => exact ⟨.halted, hworld, rfl⟩
  | halted => exact ⟨.halted, hworld, rfl⟩
  | failed e => exact ⟨.failed e, hworld, rfl⟩

/-- **A step keeps pipes alike**, if the handlers that it calls do so. -/
theorem alike_step (hsilent : R .silent .silent) {s₁ : PipeState H₁ M} {s₂ : PipeState H₂ M}
    (h : s₁.Alike SameThreading s₂) (segment : Text)
    (hcalls : ∀ c₁ ∈ s₁.calls message segment, ∀ c₂ ∈ s₂.calls message segment,
      c₁.invocation = c₂.invocation →
      Run.Alike SameButHandlers R (c₁.run meaning₁) (c₂.run meaning₂)) :
    (s₁.step meaning₁ message segment).Alike R (s₂.step meaning₂ message segment) := by
  cases hextra₂ : s₂.progress.extra? with
  | none =>
    rw [step_of_none (h.progress.extra?_eq.trans hextra₂), step_of_none hextra₂]
    exact h.stop segment
  | some extra =>
    have hextra₁ : s₁.progress.extra? = some extra := h.progress.extra?_eq.trans hextra₂
    rw [calls_of_some hextra₁, calls_of_some hextra₂] at hcalls
    have hresolve := h.world.resolve (message.withMessage segment) extra
    have hact := alike_act hsilent hresolve h.world hcalls
    rw [step_of_some hextra₁, step_of_some hextra₂]
    refine ⟨?_, hact.world, ?_⟩
    · exact hact.progress
    · simp only [advance]
      rw [h.log, hresolve.event_eq, hact.log_eq]

variable {w₁ : World H₁ M} {w₂ : World H₂ M}

/-- Whatever segments have run, pipes are alike before those that remain. -/
theorem alike_behind (hw : SameButHandlers w₁ w₂)
    (h : SameUpToThreading meaning₁ meaning₂ message w₁ w₂) (before after : List Text)
    (hsegments : commandTexts w₁.settings.pipes message.message = before ++ after) :
    (behind meaning₁ message w₁ before).Alike (MayDiffer after)
      (behind meaning₂ message w₂ before) := by
  induction before using List.reverseRecOn generalizing after with
  | nil => exact ⟨.fresh, hw, rfl⟩
  | append_singleton before segment ih =>
    rw [List.append_assoc, List.singleton_append] at hsegments
    rw [behind_concat, behind_concat]
    exact alike_step (.refl after .silent) (ih (segment :: after) hsegments) segment
      (h before segment after hsegments)

/-- Every segment comes to a call of the same command with the same invocation in both runs, or in
neither to a call. -/
theorem calls_behind_eq (hw : SameButHandlers w₁ w₂)
    (h : SameUpToThreading meaning₁ meaning₂ message w₁ w₂) {before after : List Text}
    {segment : Text}
    (hsegments : commandTexts w₁.settings.pipes message.message = before ++ segment :: after) :
    ((behind meaning₁ message w₁ before).calls message segment).map
        (fun c => (c.entry.outline, c.invocation)) =
      ((behind meaning₂ message w₂ before).calls message segment).map
        fun c => (c.entry.outline, c.invocation) :=
  (alike_behind hw h before (segment :: after) hsegments).calls_eq segment

/-- **Pipes come to the same if their handlers differ in nothing but what is not passed on**, and not
at all for the last segment. -/
theorem alike_parsePiped (hw : SameButHandlers w₁ w₂)
    (h : SameUpToThreading meaning₁ meaning₂ message w₁ w₂) :
    Run.Alike SameButHandlers Eq ((parsePiped meaning₁ message).run w₁)
      ((parsePiped meaning₂ message).run w₂) := by
  have hend := alike_behind hw h _ [] (List.append_nil _).symm
  rw [parsePiped_run_commandTexts, parsePiped_run_commandTexts, ← hw.settings]
  exact hend.run

theorem alike_consume (hw : SameButHandlers w₁ w₂)
    (h : SameUpToThreading meaning₁ meaning₂ message w₁ w₂) :
    Run.Alike SameButHandlers Eq ((consume meaning₁ message).run w₁)
      ((consume meaning₂ message).run w₂) := by
  rw [consume_run, consume_run]
  exact (alike_parsePiped hw h).behind [⟨.consuming message, none⟩]

end Pipes

/-! ## The last segment -/

section Last

variable {meaning : Meaning H M} {message : Record} {answer : CommandResult}

/-- An answer is silence or that of the handler that is called. -/
theorem exists_call_of_act {r : Resolution H} {w : World H M}
    (h : ((r.act meaning).run w).outcome = .ok answer) (hanswer : answer ≠ .silent) :
    ∃ c ∈ r.calls w, (c.run meaning).outcome = .ok answer ∧
      (c.run meaning).world = ((r.act meaning).run w).world := by
  cases r with
  | unknown name =>
    cases h
    exact absurd rfl hanswer
  | elsewhere name channel =>
    cases h
    exact absurd rfl hanswer
  | call name entry invocation =>
    refine ⟨_, List.mem_cons_self, ?_, rfl⟩
    rw [Resolution.act, Action.run_mapError] at h
    rw [Call.run]
    cases hcall : ((meaning entry invocation).run w).outcome with
    | error e =>
      rw [hcall] at h
      cases h
    | ok a =>
      rw [hcall] at h
      exact h

theorem outcome_run_stop {s : PipeState H M} (h : s.progress.extra? = none) (segment : Text)
    (hanswer : answer ≠ .silent) : (s.stop segment).run.outcome ≠ .ok answer := by
  obtain ⟨progress, w, log⟩ := s
  intro houtcome
  cases progress with
  | fresh => cases h
  | failed e => cases houtcome
  | _ =>
    cases houtcome
    exact hanswer rfl

/-- **What a pipe answers is what the handler of its last segment answers**, or silence. -/
theorem exists_last_call {w : World H M}
    (h : ((parsePiped meaning message).run w).outcome = .ok answer) (hanswer : answer ≠ .silent) :
    ∃ before last, commandTexts w.settings.pipes message.message = before ++ [last] ∧
      ∃ c ∈ (behind meaning message w before).calls message last,
        (c.run meaning).outcome = .ok answer ∧
        (c.run meaning).world = ((parsePiped meaning message).run w).world := by
  obtain ⟨before, last, hlast⟩ : ∃ before last,
      commandTexts w.settings.pipes message.message = before ++ [last] :=
    ⟨_, _, (List.dropLast_append_getLast (commandTexts_ne_nil _ _)).symm⟩
  refine ⟨before, last, hlast, ?_⟩
  rw [parsePiped_run_commandTexts, hlast, behind_concat] at h ⊢
  cases hextra : (behind meaning message w before).progress.extra? with
  | none =>
    rw [step_of_none hextra] at h
    exact absurd h (outcome_run_stop hextra last hanswer)
  | some extra =>
    rw [step_of_some hextra] at h ⊢
    rw [calls_of_some hextra]
    rw [PipeState.run, advance, Progress.outcome_ofOutcome] at h
    exact exists_call_of_act h hanswer

end Last

end Switchboard
