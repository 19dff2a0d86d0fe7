import Switchboard.Proofs.Command.Threading

/-!
# Spellings of a pipe

A pipe can be written in many ways: with other blanks around its bars, and with one or another
prefix before each command, or none.  As long as handlers leave the prefixes in force as they are, a
step of a pipe reads of its segment nothing but the body.  So two messages whose segments have the
same bodies run alike, step by step.

* `PipeState.callsFrom`, `makes_parsePiped`: all calls that a pipe makes.
* `World.SpellSamePipe`: messages whose segments have the same bodies.
* `step_eq_of_body_eq`: a step reads nothing but the body.
* `sameRuns_of_spellSamePipe`: messages that spell the same pipe come to the same.
-/

namespace Switchboard

variable {H M : Type}

open PipeState

/-! ## The calls of a pipe -/

/-- The calls that the remaining segments of a pipe make. -/
def PipeState.callsFrom (meaning : Meaning H M) (message : Record) :
    PipeState H M → List Text → List (Call H M)
  | _, [] => []
  | s, segment :: rest =>
    s.calls message segment ++ callsFrom meaning message (s.step meaning message segment) rest

/-- The calls that running a message makes. -/
def callsOf (meaning : Meaning H M) (message : Record) (w : World H M) : List (Call H M) :=
  callsFrom meaning message { world := w } (commandTexts w.settings.pipes message.message)

theorem callsFrom_of_isOver {meaning : Meaning H M} {message : Record} {s : PipeState H M}
    (h : s.IsOver) (segments : List Text) : callsFrom meaning message s segments = [] := by
  have hextra : s.progress.extra? = none := by
    rcases h with h | ⟨e, h⟩ <;> rw [h] <;> rfl
  induction segments with
  | nil => rfl
  | cons segment rest ih => rw [callsFrom, h.step_eq, calls_of_none hextra, ih, List.append_nil]

/-- The same pipe with notes beside its world. -/
def PipeState.beside (s : PipeState H M) (notes : List (Call H M)) :
    PipeState H (M × List (Call H M)) :=
  { progress := s.progress, world := World.notebook.put s.world notes, log := s.log }

variable {meaning : Meaning H M} {message : Record}

theorem step_beside (s : PipeState H M) (notes : List (Call H M)) (segment : Text) :
    (s.beside notes).step meaning.noted message segment =
      (s.step meaning message segment).beside (notes ++ s.calls message segment) := by
  cases hextra : s.progress.extra? with
  | none =>
    have hnoted : (s.beside notes).progress.extra? = none := hextra
    rw [step_of_none hextra, step_of_none hnoted, calls_of_none hextra, List.append_nil]
    obtain ⟨progress, w, log⟩ := s
    cases progress <;> rfl
  | some extra =>
    have hnoted : (s.beside notes).progress.extra? = some extra := hextra
    have hact := makes_act meaning s.world
      (s.world.resolve (message.withMessage segment) extra) notes
    have hresolve : (s.beside notes).world.resolve (message.withMessage segment) extra =
        s.world.resolve (message.withMessage segment) extra := rfl
    have hworld : (s.beside notes).world = World.notebook.put s.world notes := rfl
    rw [step_of_some hextra, step_of_some hnoted, calls_of_some hextra]
    simp only [advance]
    rw [hresolve, hworld, hact]
    rfl

/-- **A pipe notes the calls that its segments make**, one after the other. -/
theorem foldl_step_beside (segments : List Text) (s : PipeState H M) (notes : List (Call H M)) :
    segments.foldl (step meaning.noted message) (s.beside notes) =
      (segments.foldl (step meaning message) s).beside
        (notes ++ callsFrom meaning message s segments) := by
  induction segments generalizing s notes with
  | nil => rw [callsFrom, List.append_nil]; rfl
  | cons segment rest ih =>
    rw [List.foldl_cons, List.foldl_cons, step_beside, ih, callsFrom, List.append_assoc]

theorem makes_parsePiped (meaning : Meaning H M) (message : Record) (w : World H M) :
    World.notebook.Makes w (callsOf meaning message w) (parsePiped meaning message)
      (parsePiped meaning.noted message) := by
  intro seen
  have hfold : behind meaning.noted message (World.notebook.put w seen)
      (commandTexts w.settings.pipes message.message) = _ :=
    foldl_step_beside (commandTexts w.settings.pipes message.message) { world := w } seen
  have hpipes : (World.notebook.put w seen).settings.pipes = w.settings.pipes := rfl
  rw [parsePiped_run_commandTexts, parsePiped_run_commandTexts, hpipes, hfold]
  rfl

/-! ## Prefixes -/

/-- The same prefixes are in force, in whatever order and from wherever they are. -/
def SamePrefixes (w w' : World H M) : Prop := ∀ p, p ∈ w.prefixes ↔ p ∈ w'.prefixes

theorem SamePrefixes.refl (w : World H M) : SamePrefixes w w := fun _ => Iff.rfl

theorem SamePrefixes.trans {w w' w'' : World H M} (h : SamePrefixes w w')
    (h' : SamePrefixes w' w'') : SamePrefixes w w'' :=
  fun p => (h p).trans (h' p)

theorem SamePrefixes.body_eq {w w' : World H M} (h : SamePrefixes w w') (text : Text) :
    w.body text = w'.body text := by
  rw [World.body, World.body, World.matchedPrefix?, World.matchedPrefix?, longestPrefix?_congr h]

/-- The handlers that running the message calls leave the prefixes in force as they are.  They may
change anything else. -/
def KeepPrefixes (meaning : Meaning H M) (message : Record) (w : World H M) : Prop :=
  ∀ c ∈ callsOf meaning message w, SamePrefixes c.world (c.run meaning).world

theorem samePrefixes_act {w : World H M} {r : Resolution H}
    (h : ∀ c ∈ r.calls w, SamePrefixes c.world (c.run meaning).world) :
    SamePrefixes w ((r.act meaning).run w).world := by
  cases r with
  | unknown name => exact .refl w
  | elsewhere name channel => exact .refl w
  | call name entry invocation => exact h _ List.mem_cons_self

theorem samePrefixes_step {s : PipeState H M} {segment : Text}
    (h : ∀ c ∈ s.calls message segment, SamePrefixes c.world (c.run meaning).world) :
    SamePrefixes s.world (s.step meaning message segment).world := by
  cases hextra : s.progress.extra? with
  | none =>
    rw [step_of_none hextra, world_stop]
    exact .refl s.world
  | some extra =>
    rw [calls_of_some hextra] at h
    rw [step_of_some hextra]
    exact samePrefixes_act h

/-! ## Steps read the body -/

/-- The messages spell the same pipe: their segments, cut at the bars, trimmed and freed of the
prefixes that they start with, are the same. -/
structure World.SpellSamePipe (w : World H M) (m₁ m₂ : Record) : Prop where
  channel_eq : m₁.channel = m₂.channel
  extra_eq : m₁.extra = m₂.extra
  bar₁ : '|' ∈ m₁.message
  bar₂ : '|' ∈ m₂.message
  bodies_eq : (segments m₁.message).map w.body = (segments m₂.message).map w.body

section Steps

variable {m₁ m₂ : Record}

theorem resolve_eq_of_body_eq {w : World H M} (hchannel : m₁.channel = m₂.channel)
    (hextra : m₁.extra = m₂.extra) {t₁ t₂ : Text} (h : w.body t₁ = w.body t₂) (extra : List Text) :
    w.resolve (m₁.withMessage t₁) extra = w.resolve (m₂.withMessage t₂) extra := by
  simp only [World.resolve, Record.withMessage, h, hchannel, hextra]
  rfl

theorem calls_eq_of_body_eq (hchannel : m₁.channel = m₂.channel) (hextra : m₁.extra = m₂.extra)
    {s : PipeState H M} {t₁ t₂ : Text} (h : s.world.body t₁ = s.world.body t₂) :
    s.calls m₁ t₁ = s.calls m₂ t₂ := by
  rw [PipeState.calls, PipeState.calls]
  cases s.progress.extra? with
  | none => rfl
  | some extra => simp only [resolve_eq_of_body_eq hchannel hextra h]

/-- **A step that runs its segment reads nothing but the body.** -/
theorem step_eq_of_body_eq (hchannel : m₁.channel = m₂.channel) (hextra : m₁.extra = m₂.extra)
    {s : PipeState H M} {extra : List Text} (hsome : s.progress.extra? = some extra) {t₁ t₂ : Text}
    (h : s.world.body t₁ = s.world.body t₂) :
    s.step meaning m₁ t₁ = s.step meaning m₂ t₂ := by
  rw [step_of_some hsome, step_of_some hsome]
  simp only [advance, resolve_eq_of_body_eq hchannel hextra h]

end Steps

/-! ## Two spellings -/

/-- The reports are the same, except that a pipe whose last answer could not be passed on reports
the segment before which it ended as it is written. -/
inductive SameReports : List LogEntry → List LogEntry → Prop where
  | same (log : List LogEntry) : SameReports log log
  | halted (log : List LogEntry) (t₁ t₂ : Text) :
      SameReports (log ++ [⟨.halted t₁, none⟩]) (log ++ [⟨.halted t₂, none⟩])

theorem SameReports.lookedUp_eq {log₁ log₂ : List LogEntry} (h : SameReports log₁ log₂) :
    lookedUp log₁ = lookedUp log₂ := by
  cases h with
  | same log => rfl
  | halted log t₁ t₂ => simp [lookedUp, Event.lookedUp?]

/-- The pipes have come to the same. -/
structure PipeState.SameEnds (s₁ s₂ : PipeState H M) : Prop where
  progress_eq : s₁.progress = s₂.progress
  world_eq : s₁.world = s₂.world
  reports : SameReports s₁.log s₂.log

theorem sameEnds_stop (s : PipeState H M) (t₁ t₂ : Text) : SameEnds (s.stop t₁) (s.stop t₂) := by
  obtain ⟨progress, w, log⟩ := s
  cases progress with
  | answered answer => exact ⟨rfl, rfl, .halted log t₁ t₂⟩
  | _ => exact ⟨rfl, rfl, .same log⟩

/-- **Segments with the same bodies bring a pipe to the same end**, with the same calls. -/
theorem sameEnds_foldl_step {w : World H M} {m₁ m₂ : Record} (hchannel : m₁.channel = m₂.channel)
    (hextra : m₁.extra = m₂.extra) {segments₁ segments₂ : List Text}
    (hbodies : segments₁.map w.body = segments₂.map w.body) {s : PipeState H M}
    (hworld : SamePrefixes w s.world)
    (hkeep : ∀ c ∈ callsFrom meaning m₁ s segments₁, SamePrefixes c.world (c.run meaning).world) :
    SameEnds (segments₁.foldl (step meaning m₁) s) (segments₂.foldl (step meaning m₂) s) ∧
      callsFrom meaning m₁ s segments₁ = callsFrom meaning m₂ s segments₂ := by
  -- as long as segments run, both pipes are in one state; a pipe that ends early stays as it is
  induction segments₁ generalizing segments₂ s with
  | nil =>
    obtain rfl : segments₂ = [] := List.map_eq_nil_iff.mp hbodies.symm
    exact ⟨⟨rfl, rfl, .same _⟩, rfl⟩
  | cons t₁ rest₁ ih =>
    cases segments₂ with
    | nil => cases hbodies
    | cons t₂ rest₂ =>
      obtain ⟨hbody, hrest⟩ := List.cons.inj hbodies
      have hlive : s.world.body t₁ = s.world.body t₂ := by
        rw [← hworld.body_eq, ← hworld.body_eq, hbody]
      have hcalls : s.calls m₁ t₁ = s.calls m₂ t₂ := calls_eq_of_body_eq hchannel hextra hlive
      rw [callsFrom, List.forall_mem_append] at hkeep
      obtain ⟨hfirst, hlater⟩ := hkeep
      have hstep := hworld.trans (samePrefixes_step hfirst)
      rw [List.foldl_cons, List.foldl_cons, callsFrom, callsFrom, hcalls]
      cases hprogress : s.progress.extra? with
      | some extra =>
        obtain ⟨hends, hcallsFrom⟩ := ih hrest hstep hlater
        rw [← step_eq_of_body_eq hchannel hextra hprogress hlive]
        exact ⟨hends, congrArg _ hcallsFrom⟩
      | none =>
        have hover₁ := isOver_stop hprogress t₁
        have hover₂ := isOver_stop hprogress t₂
        rw [step_of_none hprogress, step_of_none hprogress, hover₁.foldl_step_eq,
          hover₂.foldl_step_eq, callsFrom_of_isOver hover₁, callsFrom_of_isOver hover₂]
        exact ⟨sameEnds_stop s t₁ t₂, rfl⟩

/-- Running the messages comes to the same: the same is looked up, called, answered and left. -/
structure SameRuns (meaning : Meaning H M) (m₁ m₂ : Record) (w : World H M) : Prop where
  outcome_eq : ((parsePiped meaning m₁).run w).outcome = ((parsePiped meaning m₂).run w).outcome
  world_eq : ((parsePiped meaning m₁).run w).world = ((parsePiped meaning m₂).run w).world
  lookedUp_eq : lookedUp ((parsePiped meaning m₁).run w).log =
    lookedUp ((parsePiped meaning m₂).run w).log
  /-- The calls are of the same commands, in the same worlds and with the same invocations. -/
  calls : ∃ calls,
    World.notebook.Makes w calls (parsePiped meaning m₁) (parsePiped meaning.noted m₁) ∧
    World.notebook.Makes w calls (parsePiped meaning m₂) (parsePiped meaning.noted m₂)
  reports : SameReports ((parsePiped meaning m₁).run w).log ((parsePiped meaning m₂).run w).log

/-- **Messages that spell the same pipe come to the same**, if the handlers that are called leave
the prefixes alone.  It does not matter how many blanks there are around the bars, nor which prefix a
segment has, nor whether it has one. -/
theorem sameRuns_of_spellSamePipe (meaning : Meaning H M) (m₁ m₂ : Record) (w : World H M)
    (hpipes : w.settings.pipes = true) (hspell : w.SpellSamePipe m₁ m₂)
    (hkeep : KeepPrefixes meaning m₁ w) : SameRuns meaning m₁ m₂ w := by
  obtain ⟨hchannel, hextra, hbar₁, hbar₂, hbodies⟩ := hspell
  have htexts₁ : commandTexts w.settings.pipes m₁.message = segments m₁.message :=
    commandTexts_eq_segments ⟨hpipes, hbar₁⟩
  have htexts₂ : commandTexts w.settings.pipes m₂.message = segments m₂.message :=
    commandTexts_eq_segments ⟨hpipes, hbar₂⟩
  rw [KeepPrefixes, callsOf, htexts₁] at hkeep
  obtain ⟨hends, hcalls⟩ : SameEnds (behind meaning m₁ w (segments m₁.message))
      (behind meaning m₂ w (segments m₂.message)) ∧ _ :=
    sameEnds_foldl_step hchannel hextra hbodies (.refl w) hkeep
  have hsame : callsOf meaning m₁ w = callsOf meaning m₂ w := by
    rw [callsOf, callsOf, htexts₁, htexts₂, hcalls]
  have hrun₁ := parsePiped_run meaning m₁ hpipes hbar₁
  have hrun₂ := parsePiped_run meaning m₂ hpipes hbar₂
  refine ⟨?_, ?_, ?_, ⟨callsOf meaning m₁ w, ?_, ?_⟩, ?_⟩
  · rw [hrun₁, hrun₂, PipeState.run, PipeState.run, hends.progress_eq]
  · rw [hrun₁, hrun₂]
    exact hends.world_eq
  · rw [hrun₁, hrun₂]
    exact hends.reports.lookedUp_eq
  · exact makes_parsePiped meaning m₁ w
  · rw [hsame]
    exact makes_parsePiped meaning m₂ w
  · rw [hrun₁, hrun₂]
    exact hends.reports

/-- A world with two prefixes, one of which starts the other; `mark` registers `late`, makes another
room the home room and turns pipes off. -/
def lateWorld : Script.ScriptWorld :=
  let late : Script.Edit := .register "late".toList .echo none true
  let mark : Entry Script.Handler :=
    { name := "mark".toList
      handler := .edit [.setRoom "den".toList, .setPipes false, late]
        (.ok (.reply "a | ?b".toList)) }
  { settings := { prefixes := ["!".toList, "!?".toList] }
    registry := (Registry.empty.register mark).2, memory := {} }

/-- A pipe with spaces around its bars and a prefix before each command. -/
def lateWide : Record :=
  { channel := "global".toList, message := " !mark | !?late x | !late".toList }

/-- The same pipe without spaces, and with another prefix or none. -/
def lateTight : Record :=
  { channel := "global".toList, message := "mark|late x|!?late".toList }

/-- The second and the third segment run a command that the first one registers, in either
spelling. -/
theorem sameRuns_of_spellSamePipe_late :
    lateWorld.SpellSamePipe lateWide lateTight ∧
    SameRuns Script.Handler.run lateWide lateTight lateWorld ∧
    ((parsePiped Script.Handler.run lateTight).run lateWorld).outcome.toOption =
      some (.reply "x a | ?b".toList) := by
  have hspell : lateWorld.SpellSamePipe lateWide lateTight :=
    ⟨rfl, rfl, by decide, by decide, by decide +kernel⟩
  have hprefixes : ∀ c ∈ callsOf Script.Handler.run lateWide lateWorld,
      (c.run Script.Handler.run).world.prefixes = c.world.prefixes := by
    decide +kernel
  have hkeep : KeepPrefixes Script.Handler.run lateWide lateWorld := by
    intro c hc p
    rw [hprefixes c hc]
  exact ⟨hspell, sameRuns_of_spellSamePipe Script.Handler.run lateWide lateTight lateWorld
    rfl hspell hkeep, by decide +kernel⟩

end Switchboard
