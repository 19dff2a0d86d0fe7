import Switchboard.Command.Pipe
import Switchboard.Proofs.Command.Resolve

/-!
# A pipe as a left fold

A pipe is a left fold of one step over its segments.  The state of the fold is how far the pipe has
come, the live world and what was reported.  A step resolves its segment in the world that the
segments before it have left, and hands on the last answer and nothing else.

* `PipeState.step`: what one segment does.
* `runPipe_run`, `parsePiped_run`: pipes are folds of `PipeState.step`.
* `PipeState.IsOver.foldl_step_eq`: a pipe that is over stays so.
-/

namespace Switchboard

variable {H M : Type}

/-! ## Progress -/

/-- How far a pipe has come. -/
inductive Progress where
  /-- No segment has run. -/
  | fresh
  /-- The last segment that ran gave this answer. -/
  | answered (answer : CommandResult)
  /-- An answer could not be passed on, and the pipe is over. -/
  | halted
  /-- A handler failed, and the pipe is over. -/
  | failed (cause : Failure)

/-- The argument a value makes: a string itself, null none, and anything else its JSON text. -/
def Json.argument? : Json → Option Text
  | .null => none
  | .string t => some t
  | v => some v.write

namespace Progress

/-- The further arguments of the next segment: none after silence and null, the text after a reply,
a redirected text and a string, the first item after an array.  There is no next segment after other
data, and when the pipe is over. -/
def extra? : Progress → Option (List Text)
  | fresh | answered .silent | answered (.data .null) => some []
  | answered (.reply t) | answered (.redirect t _) | answered (.data (.string t)) => some [t]
  | answered (.data (.array (v :: _))) => v.argument?.map ([·])
  | answered (.data _) | halted | failed _ => none

/-- How a pipe ends that has come so far. -/
def outcome : Progress → Except Failure CommandResult
  | fresh | halted => .ok .silent
  | answered answer => .ok answer
  | failed cause => .error cause

/-- The progress behind a segment that ended so. -/
def ofOutcome : Except Failure CommandResult → Progress
  | .ok answer => answered answer
  | .error cause => failed cause

theorem outcome_ofOutcome (result : Except Failure CommandResult) :
    (ofOutcome result).outcome = result := by
  cases result <;> rfl

theorem extra?_answered (answer : CommandResult) :
    (answered answer).extra? = answer.threaded.extra? := by
  cases answer with
  | silent => rfl
  | reply t => rfl
  | redirect t channel => rfl
  | data value =>
    cases value with
    | array items =>
      cases items with
      | nil => rfl
      | cons v vs => cases v <;> rfl
    | _ => rfl

/-- At most one argument is passed on. -/
theorem length_le_of_extra? {p : Progress} {extra : List Text} (h : p.extra? = some extra) :
    extra.length ≤ 1 := by
  unfold extra? at h
  split at h
  · cases h; exact Nat.zero_le _
  · cases h; exact Nat.zero_le _
  · cases h; exact Nat.zero_le _
  · cases h; exact Nat.le_refl _
  · cases h; exact Nat.le_refl _
  · cases h; exact Nat.le_refl _
  · obtain ⟨t, -, rfl⟩ := Option.map_eq_some_iff.mp h
    exact Nat.le_refl _
  all_goals cases h

end Progress

/-! ## States and steps -/

/-- A pipe under way: how far it has come, the live world, and what was reported. -/
structure PipeState (H M : Type) where
  progress : Progress := .fresh
  world : World H M
  log : List LogEntry := []

namespace PipeState

/-- The run of a pipe that has come so far. -/
def run (s : PipeState H M) : Run (World H M) Failure CommandResult :=
  ⟨s.progress.outcome, s.world, s.log⟩

/-- The state with something reported before it. -/
def after (log : List LogEntry) (s : PipeState H M) : PipeState H M :=
  { s with log := log ++ s.log }

/-- The pipe behind a segment, which gets further arguments: the segment is resolved in the live
world, and the resolution reported and acted on. -/
def advance (meaning : Meaning H M) (message : Record) (s : PipeState H M) (segment : Text)
    (extra : List Text) : PipeState H M :=
  let resolution := s.world.resolve (message.withMessage segment) extra
  let run := (resolution.act meaning).run s.world
  { progress := .ofOutcome run.outcome
    world := run.world
    log := s.log ++ ⟨resolution.event, none⟩ :: run.log }

/-- The pipe before a segment that does not run; if an answer is why, that is reported. -/
def stop (s : PipeState H M) (segment : Text) : PipeState H M :=
  match s.progress with
  | .answered _ => { s with progress := .halted, log := s.log ++ [⟨.halted segment, none⟩] }
  | _ => s

/-- What one segment does to a pipe. -/
def step (meaning : Meaning H M) (message : Record) (s : PipeState H M) (segment : Text) :
    PipeState H M :=
  match s.progress.extra? with
  | some extra => s.advance meaning message segment extra
  | none => s.stop segment

/-- The pipe behind some segments, the first of which runs in the given world. -/
def behind (meaning : Meaning H M) (message : Record) (w : World H M) (segments : List Text) :
    PipeState H M :=
  segments.foldl (step meaning message) { world := w }

variable {meaning : Meaning H M} {message : Record}

theorem step_of_some {s : PipeState H M} {extra : List Text}
    (h : s.progress.extra? = some extra) (segment : Text) :
    s.step meaning message segment = s.advance meaning message segment extra := by
  rw [step, h]

theorem step_of_none {s : PipeState H M} (h : s.progress.extra? = none) (segment : Text) :
    s.step meaning message segment = s.stop segment := by
  rw [step, h]

@[simp] theorem world_stop (s : PipeState H M) (segment : Text) :
    (s.stop segment).world = s.world := by
  rw [stop]
  split <;> rfl

theorem behind_append (w : World H M) (before after : List Text) :
    behind meaning message w (before ++ after) =
      after.foldl (step meaning message) (behind meaning message w before) :=
  List.foldl_append

/-! ## Reports come one after another -/

theorem advance_after (log : List LogEntry) (s : PipeState H M) (segment : Text)
    (extra : List Text) : (s.after log).advance meaning message segment extra =
      (s.advance meaning message segment extra).after log := by
  simp only [advance, after, List.append_assoc]

theorem stop_after (log : List LogEntry) (s : PipeState H M) (segment : Text) :
    (s.after log).stop segment = (s.stop segment).after log := by
  obtain ⟨progress, w, l⟩ := s
  cases progress with
  | answered answer => simp only [stop, after, List.append_assoc]
  | _ => rfl

theorem step_after (log : List LogEntry) (s : PipeState H M) (segment : Text) :
    (s.after log).step meaning message segment = (s.step meaning message segment).after log := by
  cases h : s.progress.extra? with
  | some extra => rw [step_of_some h, step_of_some (s := s.after log) h, advance_after]
  | none => rw [step_of_none h, step_of_none (s := s.after log) h, stop_after]

/-- What was reported before does not matter to what a pipe does. -/
theorem foldl_step_after (log : List LogEntry) (segments : List Text) (s : PipeState H M) :
    segments.foldl (step meaning message) (s.after log) =
      (segments.foldl (step meaning message) s).after log := by
  induction segments generalizing s with
  | nil => rfl
  | cons segment rest ih => rw [List.foldl_cons, List.foldl_cons, step_after, ih]

/-- The reports of the segments so far begin those of the whole pipe. -/
theorem prefix_foldl_step (segments : List Text) (s : PipeState H M) :
    s.log <+: (segments.foldl (step meaning message) s).log := by
  have hafter : segments.foldl (step meaning message) s =
      after s.log (segments.foldl (step meaning message) { s with log := [] }) := by
    rw [← foldl_step_after]
    simp only [after, List.append_nil]
  rw [hafter]
  exact List.prefix_append _ _

/-! ## Pipes that are over -/

/-- The pipe is over: nothing that follows runs. -/
def IsOver (s : PipeState H M) : Prop := s.progress = .halted ∨ ∃ e, s.progress = .failed e

theorem IsOver.step_eq {s : PipeState H M} (h : s.IsOver) (segment : Text) :
    s.step meaning message segment = s := by
  obtain ⟨progress, w, log⟩ := s
  obtain rfl | ⟨e, rfl⟩ := h <;> rfl

/-- **A pipe that is over stays as it is**, whatever segments follow. -/
theorem IsOver.foldl_step_eq {s : PipeState H M} (h : s.IsOver) (segments : List Text) :
    segments.foldl (step meaning message) s = s := by
  induction segments with
  | nil => rfl
  | cons segment rest ih => rw [List.foldl_cons, h.step_eq, ih]

end PipeState

/-! ## Pipes are folds -/

open PipeState

variable (meaning : Meaning H M) (message : Record)

/-- A segment that runs is a command that is run. -/
theorem advance_eq_of_parse_run {p : Progress} {w w' : World H M} {segment : Text}
    {extra : List Text} {outcome : Except Failure CommandResult} {log : List LogEntry}
    (h : (parse meaning (message.withMessage segment) extra).run w = ⟨outcome, w', log⟩) :
    advance meaning message { progress := p, world := w } segment extra =
      after log { progress := .ofOutcome outcome, world := w' } := by
  rw [parse_run] at h
  obtain ⟨ho, hw, hl⟩ := Run.mk.inj h
  simp only [advance, after, ho, hw, List.nil_append, List.append_nil, hl]

/-- If going on behind an answer is folding the rest, so is going on behind a segment. -/
theorem parse_bind_run {rest : List Text}
    (ih : ∀ (answer : CommandResult) (w : World H M),
      (continuePipe meaning message answer rest).run w =
        (rest.foldl (step meaning message) { progress := .answered answer, world := w }).run)
    (p : Progress) (segment : Text) (extra : List Text) (w : World H M) :
    (parse meaning (message.withMessage segment) extra >>= fun answer =>
        continuePipe meaning message answer rest).run w =
      (rest.foldl (step meaning message)
        (advance meaning message { progress := p, world := w } segment extra)).run := by
  rcases hparse : (parse meaning (message.withMessage segment) extra).run w with
    ⟨cause | answer, w', log⟩
  · have hover : (after log { progress := .failed cause, world := w' : PipeState H M }).IsOver :=
      .inr ⟨cause, rfl⟩
    rw [Action.run_bind_of_error hparse, advance_eq_of_parse_run _ _ hparse, Progress.ofOutcome,
      hover.foldl_step_eq]
    simp only [after, run, Progress.outcome, List.append_nil]
  · rw [Action.run_bind_of_ok hparse, advance_eq_of_parse_run _ _ hparse, foldl_step_after, ih]
    rfl

/-- Going on behind an answer is folding the step from there. -/
theorem continuePipe_run (answer : CommandResult) (segments : List Text) (w : World H M) :
    (continuePipe meaning message answer segments).run w =
      (segments.foldl (step meaning message) { progress := .answered answer, world := w }).run := by
  induction segments generalizing answer w with
  | nil => rfl
  | cons segment rest ih =>
    rw [continuePipe, List.foldl_cons, ← Progress.extra?_answered]
    cases hextra : (Progress.answered answer).extra? with
    | none =>
      have hover : (stop { progress := .answered answer, world := w : PipeState H M }
        segment).IsOver := .inl rfl
      rw [step_of_none hextra, hover.foldl_step_eq]
      rfl
    | some extra =>
      rw [step_of_some hextra]
      exact parse_bind_run meaning message ih _ segment extra w

/-- **Running segments is folding the step over them.** -/
theorem runPipe_run (segments : List Text) (w : World H M) :
    (runPipe meaning message segments).run w = (behind meaning message w segments).run := by
  cases segments with
  | nil => rfl
  | cons segment rest =>
    exact parse_bind_run meaning message
      (fun answer => continuePipe_run meaning message answer rest) .fresh segment [] w

theorem pipes_and_contains_bar_iff {pipes : Bool} {text : Text} :
    (pipes && text.contains '|') = true ↔ pipes = true ∧ '|' ∈ text := by
  rw [Bool.and_eq_true, List.contains_iff_mem]

/-- A message with a bar is folded segment by segment, if pipes are on when it arrives. -/
theorem parsePiped_run {w : World H M} (hpipes : w.settings.pipes = true)
    (hbar : '|' ∈ message.message) :
    (parsePiped meaning message).run w =
      (behind meaning message w (segments message.message)).run := by
  rw [parsePiped, Action.run_bind, Action.run_get, ← runPipe_run]
  simp only [pipes_and_contains_bar_iff.mpr ⟨hpipes, hbar⟩, if_true, List.nil_append]

/-- A message without a bar runs as one command, and so does every message if pipes are off. -/
theorem parsePiped_run_of_not_pipe {w : World H M}
    (h : ¬(w.settings.pipes = true ∧ '|' ∈ message.message)) :
    (parsePiped meaning message).run w = (parse meaning message []).run w := by
  rw [parsePiped, Action.run_bind, Action.run_get]
  simp only [pipes_and_contains_bar_iff, if_neg h, List.nil_append]

end Switchboard
