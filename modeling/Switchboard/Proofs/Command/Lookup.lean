import Switchboard.Proofs.Command.Fold
import Switchboard.Script.Handler

/-!
# What is looked up

The parser reports every look-up, so the names that were looked up can be read off the log.  With
inert handlers, which leave the rules of the world alone and do not call the parser, they come from
the text of the record: whatever a handler answers, it only decides how far the pipe goes.

* `commandNames`: the names in a text.
* `Inert`: handlers that leave the rules alone.
* `lookedUp_parsePiped`: the names that are looked up begin those in the text.
* `passesVerbatim_of_handlersInert`: a text that is passed on is one argument, the last.
* `lookedUp_of_inert_handlers`: whatever two families of handlers answer, one look-up sequence
  begins the other.
-/

namespace Switchboard

variable {H M : Type}

/-! ## Reading the log -/

/-- The name that was looked up, if the event reports a look-up. -/
def Event.lookedUp? : Event → Option Text
  | unknownCommand name | homeRoomOnly name _ | running name _ => some name
  | _ => none

/-- The names that were looked up, in order. -/
def lookedUp (log : List LogEntry) : List Text := log.filterMap fun e => e.event.lookedUp?

@[simp] theorem lookedUp_append (log log' : List LogEntry) :
    lookedUp (log ++ log') = lookedUp log ++ lookedUp log' := List.filterMap_append

theorem lookedUp_cons_of_some {e : LogEntry} {name : Text} (h : e.event.lookedUp? = some name)
    (log : List LogEntry) : lookedUp (e :: log) = name :: lookedUp log :=
  List.filterMap_cons_some h

/-! ## The names in a text -/

/-- The text without the longest of the prefixes that it starts with. -/
def withoutPrefix (prefixes : List Text) (text : Text) : Text :=
  match longestPrefix? prefixes text with
  | some p => text.drop p.length
  | none => text

/-- The first word of a text without its prefix. -/
def commandName (prefixes : List Text) (text : Text) : Text :=
  (words (withoutPrefix prefixes text)).1

/-- The names of the commands in a text: one for each segment, if the text is a pipe. -/
def commandNames (prefixes : List Text) (pipes : Bool) (text : Text) : List Text :=
  (if pipes && text.contains '|' then segments text else [text]).map (commandName prefixes)

theorem body_eq_withoutPrefix (w : World H M) (text : Text) :
    w.body text = withoutPrefix w.prefixes text := rfl

/-- Every resolution is one look-up, of the first word of the body. -/
theorem event_resolve_lookedUp? (w : World H M) (message : Record) (extra : List Text) :
    (w.resolve message extra).event.lookedUp? = some (commandName w.prefixes message.message) := by
  simp only [World.resolve]
  split
  · rfl
  · split <;> rfl

/-! ## Rules -/

/-- The worlds have the same configuration, settings and registry. -/
structure SameRules (w w' : World H M) : Prop where
  config : w'.config = w.config
  settings : w'.settings = w.settings
  registry : w'.registry = w.registry

namespace SameRules

variable {w w' w'' : World H M}

theorem refl (w : World H M) : SameRules w w := ⟨rfl, rfl, rfl⟩

theorem trans (h : SameRules w w') (h' : SameRules w' w'') : SameRules w w'' :=
  ⟨h'.config.trans h.config, h'.settings.trans h.settings, h'.registry.trans h.registry⟩

theorem prefixes (h : SameRules w w') : w'.prefixes = w.prefixes := by
  rw [World.prefixes, World.prefixes, h.settings, h.registry]

end SameRules

/-- A handler that leaves the rules alone and does not call the parser.  Its memory is its own
affair, and it may answer and fail as it likes. -/
structure Inert (handler : Invocation → Action (World H M) Failure CommandResult) : Prop where
  sameRules : ∀ invocation w, SameRules w ((handler invocation).run w).world
  lookedUp : ∀ invocation w, lookedUp ((handler invocation).run w).log = []

/-- All handlers that are registered are inert. -/
def World.HandlersInert (meaning : Meaning H M) (w : World H M) : Prop :=
  ∀ name entry, w.registry.lookup name = some entry → Inert (meaning entry)

/-- Acting on a resolution with inert handlers leaves the rules alone and looks up nothing. -/
theorem act_inert {meaning : Meaning H M} {w : World H M} (h : w.HandlersInert meaning)
    (message : Record) (extra : List Text) :
    SameRules w (((w.resolve message extra).act meaning).run w).world ∧
      lookedUp (((w.resolve message extra).act meaning).run w).log = [] := by
  cases hresolve : w.resolve message extra with
  | unknown name => exact ⟨.refl w, rfl⟩
  | elsewhere name channel => exact ⟨.refl w, rfl⟩
  | call name entry invocation =>
    have hinert := h name entry (resolve_eq_call_iff.mp hresolve).2.1
    exact ⟨hinert.sameRules invocation w, hinert.lookedUp invocation w⟩

/-- The name one command looks up. -/
theorem lookedUp_parse {meaning : Meaning H M} {w : World H M} (h : w.HandlersInert meaning)
    (message : Record) (extra : List Text) :
    lookedUp ((parse meaning message extra).run w).log =
      [commandName w.prefixes message.message] := by
  rw [parse_run, lookedUp_cons_of_some (event_resolve_lookedUp? w message extra),
    (act_inert h message extra).2]

/-! ## Pipes of inert handlers -/

open PipeState

section Inert

variable {meaning : Meaning H M} {w : World H M} {message : Record}

theorem SameRules.handlersInert {w' : World H M} (hrules : SameRules w w')
    (h : w.HandlersInert meaning) : w'.HandlersInert meaning := by
  intro name entry hlookup
  rw [hrules.registry] at hlookup
  exact h name entry hlookup

/-- A step keeps the rules. -/
theorem sameRules_step (h : w.HandlersInert meaning) {s : PipeState H M}
    (hrules : SameRules w s.world) (segment : Text) :
    SameRules w (s.step meaning message segment).world := by
  cases hextra : s.progress.extra? with
  | some extra =>
    rw [step_of_some hextra]
    exact hrules.trans (act_inert (hrules.handlersInert h) _ extra).1
  | none =>
    rw [step_of_none hextra, world_stop]
    exact hrules

/-- So does a run of steps. -/
theorem sameRules_foldl_step (h : w.HandlersInert meaning) (segments : List Text)
    {s : PipeState H M} (hrules : SameRules w s.world) :
    SameRules w (segments.foldl (step meaning message) s).world := by
  induction segments generalizing s with
  | nil => exact hrules
  | cons segment rest ih => exact ih (sameRules_step h hrules segment)

/-- The look-ups of a segment that runs are one, of its own name. -/
theorem lookedUp_advance (h : w.HandlersInert meaning) {s : PipeState H M}
    (hrules : SameRules w s.world) (segment : Text) (extra : List Text) :
    lookedUp (s.advance meaning message segment extra).log =
      lookedUp s.log ++ [commandName w.prefixes segment] := by
  have hevent := event_resolve_lookedUp? s.world (message.withMessage segment) extra
  rw [hrules.prefixes] at hevent
  simp only [advance]
  rw [lookedUp_append, lookedUp_cons_of_some hevent,
    (act_inert (hrules.handlersInert h) (message.withMessage segment) extra).2]
  rfl

theorem lookedUp_stop (s : PipeState H M) (segment : Text) :
    lookedUp (s.stop segment).log = lookedUp s.log := by
  rw [stop]
  split
  · rw [lookedUp_append]
    exact List.append_nil _
  · rfl

/-- A pipe without a next segment is over once it meets one. -/
theorem isOver_stop {s : PipeState H M} (h : s.progress.extra? = none) (segment : Text) :
    (s.stop segment).IsOver := by
  obtain ⟨progress, w, log⟩ := s
  cases progress with
  | fresh => cases h
  | answered answer => exact .inl rfl
  | halted => exact .inl rfl
  | failed cause => exact .inr ⟨cause, rfl⟩

/-- **The look-ups of the rest of a pipe begin the names of its segments.** -/
theorem lookedUp_foldl_step (h : w.HandlersInert meaning) (segments : List Text)
    {s : PipeState H M} (hrules : SameRules w s.world) :
    ∃ names, lookedUp (segments.foldl (step meaning message) s).log = lookedUp s.log ++ names ∧
      names <+: segments.map (commandName w.prefixes) := by
  induction segments generalizing s with
  | nil => exact ⟨[], (List.append_nil _).symm, List.prefix_refl _⟩
  | cons segment rest ih =>
    rw [List.foldl_cons]
    cases hextra : s.progress.extra? with
    | none =>
      refine ⟨[], ?_, List.nil_prefix⟩
      rw [step_of_none hextra, (isOver_stop hextra segment).foldl_step_eq, lookedUp_stop,
        List.append_nil]
    | some extra =>
      obtain ⟨names, hnames, hprefix⟩ := ih (sameRules_step h hrules segment)
      refine ⟨commandName w.prefixes segment :: names, ?_, ?_⟩
      · rw [hnames, step_of_some hextra, lookedUp_advance h hrules, List.append_assoc]
        rfl
      · rw [List.map_cons]
        exact List.cons_prefix_cons.mpr ⟨rfl, hprefix⟩

/-- **The names that are looked up begin those in the text.** -/
theorem lookedUp_parsePiped (h : w.HandlersInert meaning) :
    lookedUp ((parsePiped meaning message).run w).log <+:
      commandNames w.prefixes w.settings.pipes message.message := by
  rw [commandNames]
  by_cases hpipe : w.settings.pipes = true ∧ '|' ∈ message.message
  · obtain ⟨names, hnames, hprefix⟩ :=
      lookedUp_foldl_step h (segments message.message) (s := { world := w }) (.refl w)
    rw [parsePiped_run meaning message hpipe.1 hpipe.2,
      if_pos (pipes_and_contains_bar_iff.mpr hpipe)]
    exact hnames ▸ hprefix
  · rw [parsePiped_run_of_not_pipe meaning message hpipe, lookedUp_parse h,
      if_neg (mt pipes_and_contains_bar_iff.mp hpipe)]
    exact List.prefix_refl _

/-! ## What is passed on -/

/-- A text that an answer passes on reaches the next handler as it is, as one argument behind those
of the segment.  The segment comes to a resolution in the world that is left, which is acted on; the
name that is looked up and everything else that a handler gets come from the segment alone. -/
def PassesVerbatim (meaning : Meaning H M) (message : Record) (w : World H M) : Prop :=
  ∀ before segment after answer text,
    w.settings.pipes = true → '|' ∈ message.message →
    segments message.message = before ++ segment :: after →
    ((runPipe meaning message before).run w).outcome = .ok answer → answer.threaded = .text text →
    ∃ resolution : Resolution H, ∃ acted : Run (World H M) Failure CommandResult,
      (resolution.act meaning).run ((runPipe meaning message before).run w).world = acted ∧
      (runPipe meaning message (before ++ [segment])).run w =
        ⟨acted.outcome, acted.world,
          ((runPipe meaning message before).run w).log ++ ⟨resolution.event, none⟩ :: acted.log⟩ ∧
      ((runPipe meaning message (before ++ [segment])).run w).log <+:
        ((parsePiped meaning message).run w).log ∧
      resolution.event.lookedUp? = some (commandName w.prefixes segment) ∧
      ∀ name entry invocation, resolution = .call name entry invocation →
        name = commandName w.prefixes segment ∧ invocation =
          { message := { message with message := withoutPrefix w.prefixes segment }
            args := (words (withoutPrefix w.prefixes segment)).2 ++ [text] }

/-- Only an answer passes a text on. -/
theorem progress_of_threaded_text {p : Progress} {answer : CommandResult} {text : Text}
    (hend : p.outcome = .ok answer) (htext : answer.threaded = .text text) :
    p.extra? = some [text] := by
  cases p with
  | fresh => cases hend; cases htext
  | answered a =>
    cases hend
    rw [Progress.extra?_answered, htext]
    rfl
  | halted => cases hend; cases htext
  | failed cause => cases hend

/-- **A text that is passed on is one argument, the last.** -/
theorem passesVerbatim_of_handlersInert (h : w.HandlersInert meaning) :
    PassesVerbatim meaning message w := by
  intro before segment after answer text hpipes hbar hsegments hend htext
  have hrules : SameRules w (behind meaning message w before).world :=
    sameRules_foldl_step h before (.refl w)
  have hnext : behind meaning message w (before ++ [segment]) =
      (behind meaning message w before).advance meaning message segment [text] := by
    rw [runPipe_run] at hend
    rw [behind_append]
    exact step_of_some (progress_of_threaded_text hend htext) segment
  have hwhole : behind meaning message w (segments message.message) =
      after.foldl (step meaning message) (behind meaning message w (before ++ [segment])) := by
    rw [hsegments, ← behind_append, List.append_assoc]
    rfl
  refine ⟨(behind meaning message w before).world.resolve (message.withMessage segment) [text],
    _, rfl, ?_, ?_, ?_, ?_⟩
  · rw [runPipe_run, runPipe_run, hnext]
    simp only [run, advance, Progress.outcome_ofOutcome]
  · rw [runPipe_run, parsePiped_run meaning message hpipes hbar, hwhole]
    exact prefix_foldl_step after _
  · rw [event_resolve_lookedUp?, hrules.prefixes]
    rfl
  · intro name entry invocation hcall
    obtain ⟨hname, -, -, hinvocation⟩ := resolve_eq_call_iff.mp hcall
    rw [body_eq_withoutPrefix, hrules.prefixes] at hname hinvocation
    exact ⟨hname, hinvocation⟩

end Inert

/-! ## Two families of handlers -/

/-- The registry without its handlers. -/
def Registry.outline (r : Registry H) : List (Text × Entry Unit) :=
  r.commands.entries.map fun (key, e) => (key, { e with handler := () })

theorem Registry.customPrefixes_eq (r : Registry H) :
    r.customPrefixes = r.outline.filterMap fun e => e.2.customPrefix := by
  rw [Registry.customPrefixes, KeyMap.values, Registry.outline, List.filterMap_map,
    List.filterMap_map]
  rfl

variable {H₁ M₁ H₂ M₂ : Type}

/-- The prefixes do not depend on the handlers. -/
theorem prefixes_of_outline_eq {w₁ : World H₁ M₁} {w₂ : World H₂ M₂}
    (hsettings : w₁.settings = w₂.settings)
    (houtline : w₁.registry.outline = w₂.registry.outline) : w₁.prefixes = w₂.prefixes := by
  rw [World.prefixes, World.prefixes, hsettings, Registry.customPrefixes_eq,
    Registry.customPrefixes_eq, houtline]

/-- **What is passed on does not choose which commands run.**  For two families of inert handlers
under the same names, with the same prefixes and scopes, the names that are looked up begin those in
the text, which depend on the text, the prefixes and the setting for pipes alone.  So one look-up
sequence begins the other.  In both runs a text that is passed on is one argument, the last. -/
theorem lookedUp_of_inert_handlers (meaning₁ : Meaning H₁ M₁) (meaning₂ : Meaning H₂ M₂)
    (message : Record) (w₁ : World H₁ M₁) (w₂ : World H₂ M₂)
    (hsettings : w₁.settings = w₂.settings)
    (houtline : w₁.registry.outline = w₂.registry.outline)
    (hinert₁ : w₁.HandlersInert meaning₁) (hinert₂ : w₂.HandlersInert meaning₂) :
    lookedUp ((parsePiped meaning₁ message).run w₁).log <+:
      commandNames w₁.prefixes w₁.settings.pipes message.message ∧
    lookedUp ((parsePiped meaning₂ message).run w₂).log <+:
      commandNames w₁.prefixes w₁.settings.pipes message.message ∧
    (lookedUp ((parsePiped meaning₁ message).run w₁).log <+:
        lookedUp ((parsePiped meaning₂ message).run w₂).log ∨
      lookedUp ((parsePiped meaning₂ message).run w₂).log <+:
        lookedUp ((parsePiped meaning₁ message).run w₁).log) ∧
    PassesVerbatim meaning₁ message w₁ ∧ PassesVerbatim meaning₂ message w₂ := by
  have h₁ : lookedUp ((parsePiped meaning₁ message).run w₁).log <+: _ :=
    lookedUp_parsePiped hinert₁
  have h₂ : lookedUp ((parsePiped meaning₂ message).run w₂).log <+: _ :=
    lookedUp_parsePiped hinert₂
  rw [← prefixes_of_outline_eq hsettings houtline, ← hsettings] at h₂
  exact ⟨h₁, h₂, List.prefix_or_prefix_of_prefix h₁ h₂,
    passesVerbatim_of_handlersInert hinert₁, passesVerbatim_of_handlersInert hinert₂⟩

/-- Handlers that give a fixed answer or failure. -/
def fixedAnswer : Meaning (Except Failure CommandResult) Unit :=
  fun entry _ => Action.ofExcept entry.handler

theorem inert_fixedAnswer (entry : Entry (Except Failure CommandResult)) :
    Inert (fixedAnswer entry) where
  sameRules invocation w := by
    rw [fixedAnswer, Action.run_ofExcept]
    exact .refl w
  lookedUp invocation w := by
    rw [fixedAnswer, Action.run_ofExcept]
    rfl

/-- A world whose only command `say` gives a fixed answer. -/
def sayWorld (answer : Except Failure CommandResult) : World (Except Failure CommandResult) Unit :=
  { registry := (Registry.empty.register { name := "say".toList, handler := answer }).2
    memory := () }

/-- A pipe of three segments. -/
def sayPipe : Record :=
  { channel := "global".toList, message := "!say | !say x| y !say".toList }

/-- Two families of handlers for the pipe: an answer that looks like a pipe itself, and a failure,
behind which nothing is looked up. -/
theorem lookedUp_of_inert_handlers_say :
    commandNames (sayWorld (.error (.plain []))).prefixes true sayPipe.message =
      ["say".toList, "say".toList, "y".toList] ∧
    lookedUp ((parsePiped fixedAnswer sayPipe).run
        (sayWorld (.ok (.reply "a | !b  c".toList)))).log <+:
      ["say".toList, "say".toList, "y".toList] ∧
    lookedUp ((parsePiped fixedAnswer sayPipe).run (sayWorld (.error (.plain [])))).log =
      ["say".toList] := by
  have h := lookedUp_of_inert_handlers fixedAnswer fixedAnswer sayPipe
    (sayWorld (.ok (.reply "a | !b  c".toList))) (sayWorld (.error (.plain []))) rfl rfl
    (fun _ entry _ => inert_fixedAnswer entry) (fun _ entry _ => inert_fixedAnswer entry)
  exact ⟨by decide +kernel, h.1, by decide +kernel⟩

end Switchboard
