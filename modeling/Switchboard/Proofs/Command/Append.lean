import Mathlib.Data.List.Induction
import Switchboard.Proofs.Command.Pipe
import Switchboard.Proofs.Command.Segments

/-!
# One more segment

A pipe with one more segment behind it does what the shorter pipe does, and then runs the segment on
the last answer, in the world that is left.  That the shorter pipe ended silently does not say
whether the segment runs: it runs behind a last segment that was silent, and not behind a pipe that
ended early.

* `CommandResult.Halting`: an answer that cannot be passed on.
* `EndsEarly`: a segment before the last one gives such an answer.
* `progress_behind_eq_halted_iff`: these are the pipes that halt.
* `parsePiped_append_segment`: what a pipe with one more segment comes to.
-/

namespace Switchboard

variable {H M : Type}

/-- Data that cannot be passed on: neither null, nor a string, nor an array whose first item is there
and not null. -/
def CommandResult.Halting (answer : CommandResult) : Prop :=
  ∃ value : Json, answer = .data value ∧ value ≠ .null ∧ (∀ t, value ≠ .string t) ∧
    ∀ v vs, value = .array (v :: vs) → v = .null

theorem extra?_answered_eq_none_iff {answer : CommandResult} :
    (Progress.answered answer).extra? = none ↔ answer.Halting := by
  constructor
  · intro h
    obtain (h | ⟨e, h⟩) | ⟨value, h, hnull, hstring, harray⟩ := extra?_eq_none_cases h
    · cases h
    · cases h
    · cases h
      exact ⟨value, rfl, hnull, hstring, harray⟩
  · rintro ⟨value, rfl, hnull, hstring, harray⟩
    cases value with
    | null => exact absurd rfl hnull
    | string t => exact absurd rfl (hstring t)
    | array items =>
      cases items with
      | nil => rfl
      | cons v vs =>
        rw [harray v vs rfl]
        rfl
    | _ => rfl

open PipeState

/-! ## Pipes that end early -/

variable {meaning : Meaning H M} {message : Record} {w : World H M}

/-- A segment of the message that is not the last one gives an answer that cannot be passed on. -/
def EndsEarly (meaning : Meaning H M) (message : Record) (w : World H M) : Prop :=
  ∃ before segment after answer, segments message.message = before ++ segment :: after ∧
    after ≠ [] ∧ (behind meaning message w (before ++ [segment])).progress = .answered answer ∧
    answer.Halting

theorem behind_concat (w : World H M) (before : List Text) (segment : Text) :
    behind meaning message w (before ++ [segment]) =
      (behind meaning message w before).step meaning message segment :=
  behind_append w before [segment]

theorem progress_step_eq_halted {s : PipeState H M} {segment : Text}
    (h : (s.step meaning message segment).progress = .halted) :
    s.progress = .halted ∨ ∃ answer, s.progress = .answered answer ∧ answer.Halting := by
  cases hextra : s.progress.extra? with
  | some extra =>
    rw [step_of_some hextra, advance] at h
    simp only [Progress.ofOutcome] at h
    split at h <;> cases h
  | none =>
    obtain (hhalted | ⟨e, hfailed⟩) | ⟨value, hanswered, hvalue⟩ := extra?_eq_none_cases hextra
    · exact .inl hhalted
    · rw [step_of_none hextra, stop, hfailed] at h
      simp only [hfailed] at h
      cases h
    · exact .inr ⟨.data value, hanswered, value, rfl, hvalue⟩

theorem step_of_halting {s : PipeState H M} {answer : CommandResult}
    (h : s.progress = .answered answer) (hanswer : answer.Halting) (segment : Text) :
    s.step meaning message segment =
      { progress := .halted, world := s.world, log := s.log ++ [⟨.halted segment, none⟩] } := by
  have hextra : s.progress.extra? = none := by
    rw [h]
    exact extra?_answered_eq_none_iff.mpr hanswer
  rw [step_of_none hextra, stop, h]

/-- **A pipe halts just if a segment before the last one gives an answer that cannot be passed
on.** -/
theorem progress_behind_eq_halted_iff {segments : List Text} :
    (behind meaning message w segments).progress = .halted ↔
      ∃ before segment after answer, segments = before ++ segment :: after ∧ after ≠ [] ∧
        (behind meaning message w (before ++ [segment])).progress = .answered answer ∧
        answer.Halting := by
  constructor
  · intro h
    -- the last segment either meets a pipe that has halted or an answer that halts it
    induction segments using List.reverseRecOn with
    | nil => cases h
    | append_singleton before last ih =>
      rw [behind_concat] at h
      obtain hhalted | ⟨answer, hanswered, hanswer⟩ := progress_step_eq_halted h
      · obtain ⟨before', segment, after, answer, rfl, -, hrest⟩ := ih hhalted
        refine ⟨before', segment, after ++ [last], answer, ?_, ?_, hrest⟩
        · rw [List.append_assoc, List.cons_append]
        · exact List.append_ne_nil_of_right_ne_nil after (List.cons_ne_nil last [])
      · cases before using List.reverseRecOn with
        | nil => cases hanswered
        | append_singleton before segment =>
          refine ⟨before, segment, [last], answer, ?_, List.cons_ne_nil last [], hanswered, hanswer⟩
          rw [List.append_assoc, List.singleton_append]
  · rintro ⟨before, segment, after, answer, rfl, hafter, hanswered, hanswer⟩
    obtain ⟨next, rest, rfl⟩ := List.exists_cons_of_ne_nil hafter
    have hsplit : before ++ segment :: next :: rest = (before ++ [segment]) ++ next :: rest := by
      rw [List.append_assoc, List.singleton_append]
    rw [hsplit, behind_append, List.foldl_cons, step_of_halting hanswered hanswer]
    have hover : IsOver { progress := .halted
                          world := (behind meaning message w (before ++ [segment])).world
                          log := (behind meaning message w (before ++ [segment])).log ++
                            [⟨.halted next, none⟩] : PipeState H M } := .inl rfl
    rw [hover.foldl_step_eq]

theorem endsEarly_iff :
    EndsEarly meaning message w ↔
      (behind meaning message w (segments message.message)).progress = .halted :=
  progress_behind_eq_halted_iff.symm

/-- A single command has no segment before the last one. -/
theorem not_endsEarly_of_not_mem (h : '|' ∉ message.message) : ¬EndsEarly meaning message w := by
  rintro ⟨before, segment, after, answer, hsegments, hafter, -⟩
  rw [segments_of_not_mem h] at hsegments
  have hlength := congrArg List.length hsegments
  rw [List.length_singleton, List.length_append, List.length_cons] at hlength
  have hpos : 0 < after.length := List.length_pos_iff.mpr hafter
  omega

/-! ## One more segment -/

/-- A message with a bar, or without blanks at its ends, runs as its segments one after the other. -/
theorem parsePiped_run_of_trim (meaning : Meaning H M) (message : Record) {text : Text}
    (hpipes : w.settings.pipes = true) (htext : '|' ∈ text ∨ text.trim = text) :
    (parsePiped meaning (message.withMessage text)).run w =
      (behind meaning message w (segments text)).run := by
  by_cases hbar : '|' ∈ text
  · exact parsePiped_run meaning (message.withMessage text) hpipes hbar
  · have htrim : text.trim = text := htext.resolve_left hbar
    have hsegments : segments text = [text] := by
      rw [segments_of_not_mem hbar, htrim]
    have hnot : ¬(w.settings.pipes = true ∧ '|' ∈ text) := fun h => hbar h.2
    have hone : runPipe meaning message [text] = parse meaning (message.withMessage text) [] :=
      bind_pure _
    rw [parsePiped_run_of_not_pipe meaning (message.withMessage text) hnot, hsegments,
      ← runPipe_run, hone]

theorem run_step_of_some {s : PipeState H M} {extra : List Text}
    (h : s.progress.extra? = some extra) (segment : Text) :
    (s.step meaning message segment).run =
      ⟨((parse meaning (message.withMessage segment) extra).run s.world).outcome,
        ((parse meaning (message.withMessage segment) extra).run s.world).world,
        s.log ++ ((parse meaning (message.withMessage segment) extra).run s.world).log⟩ := by
  rw [step_of_some h, parse_run]
  simp only [advance, run, Progress.outcome_ofOutcome]

theorem isOver_of_outcome_eq_error {s : PipeState H M} {cause : Failure}
    (h : s.run.outcome = .error cause) : s.IsOver := by
  cases hprogress : s.progress with
  | failed e => exact .inr ⟨e, hprogress⟩
  | _ =>
    rw [run, hprogress] at h
    cases h

/-- A pipe that ends with an answer and has not halted stands behind that answer, or before its first
segment, which is like behind silence. -/
theorem progress_of_outcome_eq_ok {s : PipeState H M} {answer : CommandResult}
    (h : s.run.outcome = .ok answer) (hnot : s.progress ≠ .halted) :
    s.progress = .answered answer ∨ (s.progress = .fresh ∧ answer = .silent) := by
  rw [run] at h
  cases hprogress : s.progress with
  | fresh =>
    rw [hprogress] at h
    cases h
    exact .inr ⟨rfl, rfl⟩
  | answered a =>
    rw [hprogress] at h
    cases h
    exact .inl rfl
  | halted => exact absurd hprogress hnot
  | failed e =>
    rw [hprogress] at h
    cases h

theorem parsePiped_append_run (meaning : Meaning H M) (message : Record) {text segment : Text}
    (hpipes : w.settings.pipes = true) (hsegment : '|' ∉ segment) :
    (parsePiped meaning (message.withMessage (text ++ '|' :: segment))).run w =
      ((behind meaning message w (segments text)).step meaning message segment.trim).run := by
  have hbar : '|' ∈ text ++ '|' :: segment := List.mem_append_right text List.mem_cons_self
  rw [parsePiped_run_of_trim meaning message hpipes (.inl hbar), segments_append,
    segments_of_not_mem hsegment, behind_concat]

/-- **What a pipe with one more segment comes to.**  If the pipe without it fails, the failure is the
same, and if it ends early, it still ends silently; the segment does not run.  Otherwise the segment
runs as a command, without its blanks and in the world that is left: with no further argument behind
silence and null, and with the text that the last answer passes on.  It does not run, and the pipe
ends silently, behind an answer that cannot be passed on. -/
theorem parsePiped_append_segment (meaning : Meaning H M) (message : Record) (w : World H M)
    (text segment : Text) (hpipes : w.settings.pipes = true)
    (htext : '|' ∈ text ∨ text.trim = text) (hsegment : '|' ∉ segment) :
    let first := (parsePiped meaning (message.withMessage text)).run w
    let whole := (parsePiped meaning (message.withMessage (text ++ '|' :: segment))).run w
    (∀ cause, first.outcome = .error cause → whole = first) ∧
    (EndsEarly meaning (message.withMessage text) w →
      whole = first ∧ first.outcome = .ok .silent) ∧
    (∀ answer, first.outcome = .ok answer → ¬EndsEarly meaning (message.withMessage text) w →
      (answer.Halting →
        whole = ⟨.ok .silent, first.world, first.log ++ [⟨.halted segment.trim, none⟩]⟩) ∧
      ∀ extra, (Progress.answered answer).extra? = some extra →
        let next := (parse meaning (message.withMessage segment.trim) extra).run first.world
        whole = ⟨next.outcome, next.world, first.log ++ next.log⟩) := by
  intro first whole
  let s : PipeState H M := behind meaning message w (segments text)
  have hfirst : first = s.run := parsePiped_run_of_trim meaning message hpipes htext
  have hwhole : whole = (s.step meaning message segment.trim).run :=
    parsePiped_append_run meaning message hpipes hsegment
  have hearly : EndsEarly meaning (message.withMessage text) w ↔ s.progress = .halted :=
    endsEarly_iff
  have hover : s.IsOver → whole = first := by
    intro h
    rw [hwhole, hfirst, h.step_eq]
  refine ⟨?_, ?_, ?_⟩
  · intro cause hcause
    rw [hfirst] at hcause
    exact hover (isOver_of_outcome_eq_error hcause)
  · intro h
    have hhalted : s.progress = .halted := hearly.mp h
    refine ⟨hover (.inl hhalted), ?_⟩
    rw [hfirst, run, hhalted]
    rfl
  · intro answer hanswer hnot
    rw [hearly] at hnot
    rw [hfirst] at hanswer
    have hprogress := progress_of_outcome_eq_ok hanswer hnot
    rw [hwhole, hfirst]
    constructor
    · intro hhalting
      obtain h | ⟨-, rfl⟩ := hprogress
      · rw [step_of_halting h hhalting]
        rfl
      · obtain ⟨value, h, -⟩ := hhalting
        cases h
    · intro extra hextra
      apply run_step_of_some
      obtain h | ⟨h, rfl⟩ := hprogress
      · rw [h]
        exact hextra
      · rw [h]
        exact hextra

/-- One more segment behind `!mark`, which makes `?` the prefix and turns pipes off: it runs with the
new prefix, without its blanks, and gets the first item of the answer. -/
theorem parsePiped_append_segment_mark :
    markWorld.settings.pipes = true ∧ Text.trim "!mark".toList = "!mark".toList ∧
    '|' ∉ "  ?tell a ".toList ∧
    ((parsePiped Script.Handler.run (markPipe.withMessage
      ("!mark".toList ++ '|' :: "  ?tell a ".toList))).run markWorld).outcome.toOption =
        some (.redirect "a x | !y".toList "den".toList) := by
  have hanswer : ((parsePiped Script.Handler.run (markPipe.withMessage "!mark".toList)).run
      markWorld).outcome = .ok (.data (.array [.string "x | !y".toList, .null])) := by
    rfl
  have hearly : ¬EndsEarly Script.Handler.run (markPipe.withMessage "!mark".toList) markWorld :=
    not_endsEarly_of_not_mem (by decide)
  have h := ((parsePiped_append_segment Script.Handler.run markPipe markWorld "!mark".toList
    "  ?tell a ".toList (by decide) (.inr (by decide)) (by decide)).2.2 _ hanswer hearly).2
      ["x | !y".toList] rfl
  refine ⟨by decide, by decide, by decide, ?_⟩
  rw [h]
  decide +kernel

end Switchboard
