import Switchboard.Proofs.Command.Fold
import Switchboard.Script.Handler

/-!
# What a pipe does

`Turn` says rule by rule what may become of one segment: the pipe is over, or its last answer cannot
be passed on, or the segment names no command, or one that does not run here, or its handler is
called.  Every step of the fold is a turn.

* `step_turn`: what `PipeState.step` does is a turn.
* `parsePiped_refines_foldl`: a pipe refines the left fold over its segments, each of which takes
  its turn in the state that the segments before it have left.
-/

namespace Switchboard

variable {H M : Type}

/-! ## Turns -/

/-- What may become of a segment: the state of the pipe before it and behind it. -/
inductive Turn (meaning : Meaning H M) (message : Record) (s : PipeState H M) (segment : Text) :
    PipeState H M → Prop
  /-- The pipe is over, and nothing happens. -/
  | over : s.IsOver → Turn meaning message s segment s
  /-- The last answer is data that cannot be passed on: neither null, nor a string, nor an array
  whose first item is there and not null.  The pipe ends silently. -/
  | halt (value : Json) : s.progress = .answered (.data value) → value ≠ .null →
      (∀ t, value ≠ .string t) → (∀ v vs, value = .array (v :: vs) → v = .null) →
      Turn meaning message s segment
        { progress := .halted, world := s.world, log := s.log ++ [⟨.halted segment, none⟩] }
  /-- The first word of the body is no command's name, and the answer is silence. -/
  | unknown (extra : List Text) (name : Text) (own : List Text) :
      s.progress.extra? = some extra → words (s.world.body segment) = (name, own) →
      s.world.registry.lookup name = none →
      Turn meaning message s segment
        { progress := .answered .silent, world := s.world,
          log := s.log ++ [⟨.unknownCommand name, none⟩] }
  /-- The command only runs in the home room, the record is from another channel, and the answer is
  silence. -/
  | elsewhere (extra : List Text) (name : Text) (own : List Text) (entry : Entry H) :
      s.progress.extra? = some extra → words (s.world.body segment) = (name, own) →
      s.world.registry.lookup name = some entry →
      entry.global = false → message.channel ≠ s.world.config.room →
      Turn meaning message s segment
        { progress := .answered .silent, world := s.world,
          log := s.log ++ [⟨.homeRoomOnly name message.channel, none⟩] }
  /-- The handler is called with a copy of the record and the segment's own arguments before the one
  that is passed on; its world and its answer or failure are those of the pipe. -/
  | call (extra : List Text) (name : Text) (own : List Text) (entry : Entry H)
      (invocation : Invocation) (run : Run (World H M) Failure CommandResult) :
      s.progress.extra? = some extra → extra.length ≤ 1 →
      words (s.world.body segment) = (name, own) →
      s.world.registry.lookup name = some entry →
      entry.global = true ∨ message.channel = s.world.config.room →
      invocation = { message := { message with message := s.world.body segment },
                     args := own ++ extra } →
      (meaning entry invocation).run s.world = run →
      Turn meaning message s segment
        { progress := match run.outcome with
            | .ok answer => .answered answer
            | .error cause => .failed (.command name cause)
          world := run.world
          log := s.log ++ ⟨.running name invocation, none⟩ :: run.log }

/-- A state without a next segment is over, or its last answer is data that cannot be passed on. -/
theorem extra?_eq_none_cases {p : Progress} (h : p.extra? = none) :
    (p = .halted ∨ ∃ e, p = .failed e) ∨
      ∃ value, p = .answered (.data value) ∧ value ≠ .null ∧ (∀ t, value ≠ .string t) ∧
        ∀ v vs, value = .array (v :: vs) → v = .null := by
  unfold Progress.extra? at h
  split at h
  · cases h
  · cases h
  · cases h
  · cases h
  · cases h
  · cases h
  · next v vs =>
    refine .inr ⟨_, rfl, by simp, by simp, ?_⟩
    rintro v' vs' ⟨rfl, rfl⟩
    cases v <;> first | rfl | cases h
  · next value hnull hstring harray =>
    refine .inr ⟨value, rfl, ?_, ?_, ?_⟩
    · rintro rfl; exact hnull rfl
    · rintro t rfl; exact hstring t rfl
    · rintro v vs rfl; exact absurd rfl (harray v vs)
  · exact .inl (.inl rfl)
  · next e => exact .inl (.inr ⟨e, rfl⟩)

theorem ofOutcome_mapError (name : Text) (outcome : Except Failure CommandResult) :
    Progress.ofOutcome (outcome.mapError (.command name)) = match outcome with
      | .ok answer => .answered answer
      | .error cause => .failed (.command name cause) := by
  cases outcome <;> rfl

open PipeState in
/-- **Every step of the fold is a turn.** -/
theorem step_turn (meaning : Meaning H M) (message : Record) (s : PipeState H M) (segment : Text) :
    Turn meaning message s segment (s.step meaning message segment) := by
  cases hextra : s.progress.extra? with
  | none =>
    rw [step_of_none hextra]
    obtain ⟨progress, w, log⟩ := s
    obtain hover | ⟨value, hprogress, hnull, hstring, harray⟩ := extra?_eq_none_cases hextra
    · have hstop : stop { progress, world := w, log } segment = { progress, world := w, log } := by
        obtain h | ⟨e, h⟩ := hover <;> cases h <;> rfl
      rw [hstop]
      exact .over hover
    · cases hprogress
      exact .halt value rfl hnull hstring harray
  | some extra =>
    rw [step_of_some hextra]
    obtain ⟨name, own, hwords⟩ : ∃ name own, words (s.world.body segment) = (name, own) :=
      ⟨_, _, rfl⟩
    cases hlookup : s.world.registry.lookup name with
    | none =>
      have hresolve : s.world.resolve (message.withMessage segment) extra = .unknown name :=
        resolve_of_lookup_eq_none hwords hlookup
      simp only [advance, hresolve]
      exact .unknown extra name own hextra hwords hlookup
    | some entry =>
      by_cases hpass : entry.global = true ∨ message.channel = s.world.config.room
      · have hresolve : s.world.resolve (message.withMessage segment) extra = .call name entry
            { message := { message with message := s.world.body segment }, args := own ++ extra } :=
          resolve_of_pass hwords hlookup hpass
        have hturn : Turn meaning message s segment _ := .call extra name own entry _ _ hextra
          (Progress.length_le_of_extra? hextra) hwords hlookup hpass rfl rfl
        simp only [advance, hresolve, Resolution.act, Action.run_mapError, ofOutcome_mapError]
        exact hturn
      · rw [not_or, Bool.not_eq_true] at hpass
        have hresolve : s.world.resolve (message.withMessage segment) extra =
            .elsewhere name message.channel :=
          resolve_of_elsewhere hwords hlookup hpass.1 hpass.2
        simp only [advance, hresolve]
        exact .elsewhere extra name own entry hextra hwords hlookup hpass.1 hpass.2

/-! ## The refinement -/

/-- The segments of a message with a bar: at least two pieces, cut at the bars and trimmed. -/
theorem exists_pieces_of_mem_bar {message : Text} (hbar : '|' ∈ message) :
    ∃ pieces : List Text, Text.joinWith ['|'] pieces = message ∧
      (∀ piece ∈ pieces, '|' ∉ piece) ∧ 2 ≤ pieces.length ∧
      segments message = pieces.map Text.trim := by
  refine ⟨Text.splitOn '|' message, Text.joinWith_splitOn '|' message,
    fun piece h => Text.not_mem_of_mem_splitOn h, ?_, rfl⟩
  have hcount : 0 < message.count '|' := List.count_pos_iff.mpr hbar
  rw [Text.length_splitOn]
  omega

/-- **A pipe refines a left fold over its segments with live state.**  The message is cut at its
bars, and the run of the pipe is that of the fold of `PipeState.step` over the trimmed pieces.  Each
segment takes its turn in the state that the segments before it have left, with what they made of
the configuration, the settings and the registry. -/
theorem parsePiped_refines_foldl (meaning : Meaning H M) (message : Record) (w : World H M)
    (hpipes : w.settings.pipes = true) (hbar : '|' ∈ message.message) :
    (∃ pieces : List Text, Text.joinWith ['|'] pieces = message.message ∧
      (∀ piece ∈ pieces, '|' ∉ piece) ∧ 2 ≤ pieces.length ∧
      segments message.message = pieces.map Text.trim) ∧
    (parsePiped meaning message).run w =
      ((segments message.message).foldl (PipeState.step meaning message) { world := w }).run ∧
    ∀ before segment after, segments message.message = before ++ segment :: after →
      Turn meaning message (before.foldl (PipeState.step meaning message) { world := w }) segment
        ((before ++ [segment]).foldl (PipeState.step meaning message) { world := w }) := by
  refine ⟨exists_pieces_of_mem_bar hbar, parsePiped_run meaning message hpipes hbar, ?_⟩
  intro before segment after _
  rw [List.foldl_append]
  exact step_turn meaning message _ segment

/-- A world in which `mark` answers with a list, makes `?` the prefix and turns pipes off, and
`tell` only runs in the home room. -/
def markWorld : Script.ScriptWorld :=
  let mark : Entry Script.Handler :=
    { name := "mark".toList
      handler := .edit [.setPrefixes ["?".toList], .setPipes false]
        (.ok (.data (.array [.string "x | !y".toList, .null]))) }
  let tell : Entry Script.Handler :=
    { name := "tell".toList, handler := .tell "den".toList, global := false }
  { registry := ((Registry.empty.register mark).2.register tell).2, memory := {} }

/-- The pipe `!mark |  ?tell a`, whose second segment has the prefix that the first one sets. -/
def markPipe : Record := { channel := "global".toList, message := "!mark |  ?tell a".toList }

/-- The refinement at a pipe that changes its own prefixes: the first item of the list is the last
argument of the second segment, bar and prefix included. -/
theorem parsePiped_refines_foldl_mark :
    markWorld.settings.pipes = true ∧ '|' ∈ markPipe.message ∧
    segments markPipe.message = ["!mark".toList, "?tell a".toList] ∧
    ((parsePiped Script.Handler.run markPipe).run markWorld).outcome.toOption =
      some (.redirect "a x | !y".toList "den".toList) := by
  have h := parsePiped_refines_foldl Script.Handler.run markPipe markWorld (by decide) (by decide)
  refine ⟨by decide, by decide, by decide, ?_⟩
  rw [h.2.1]
  decide +kernel

end Switchboard
