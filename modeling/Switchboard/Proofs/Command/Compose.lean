import Switchboard.Proofs.Command.Pipe
import Switchboard.Proofs.Command.Segments

/-!
# Pipes of text commands

A command that replies a text made of its arguments is a function on texts, and a pipe of such
commands is their composition: the spaces of the first input, and texts that are empty or look like
words, commands or pipes themselves, go through as they are.

* `TextCommand.IsInstalled`: a function on texts as a registered command.
* `parse_run_of_installed`: one command applies its function.
* `parsePiped_textCommands`: a pipe composes the functions.
-/

namespace Switchboard

variable {H M : Type}

/-! ## Text commands -/

/-- A command that replies what a function makes of its arguments with spaces between them. -/
structure TextCommand where
  name : Text
  apply : Text → Text

/-- The command is registered for all rooms under a name without blanks and bars, and its handler
replies and leaves the world as it is. -/
structure TextCommand.IsInstalled (meaning : Meaning H M) (w : World H M) (c : TextCommand) :
    Prop where
  no_blank : ∀ d ∈ c.name, isBlank d = false
  no_bar : '|' ∉ c.name
  registered : ∃ entry, w.registry.lookup c.name = some entry ∧ entry.global = true ∧
    ∀ invocation : Invocation,
      ((meaning entry invocation).run w).outcome = .ok (.reply (c.apply invocation.rest)) ∧
      ((meaning entry invocation).run w).world = w

/-- The commands joined by pipes, each with the usual prefix, and the first one with an input. -/
def pipeText (c : TextCommand) (input : Text) (cs : List TextCommand) : Text :=
  Text.joinWith " | ".toList
    (('!' :: c.name ++ ' ' :: input) :: cs.map fun d => '!' :: d.name)

/-! ## Running text commands -/

section TextCommands

variable {meaning : Meaning H M} {w : World H M} {c : TextCommand} {cs : List TextCommand}
  {input : Text}

theorem TextCommand.IsInstalled.no_space (h : c.IsInstalled meaning w) : ' ' ∉ c.name := by
  intro hmem
  exact absurd (h.no_blank ' ' hmem) (by decide)

theorem TextCommand.IsInstalled.trim_prefixed (h : c.IsInstalled meaning w) :
    Text.trim ('!' :: c.name) = '!' :: c.name := by
  apply Text.trim_of_ends
  · intro d hd
    cases hd
    decide
  · intro d hd
    obtain hd | hd := List.mem_cons.mp (List.mem_of_getLast? hd)
    · rw [hd]
      decide
    · exact h.no_blank d hd

/-- With the usual settings the prefix is taken off a message. -/
theorem body_cons (hsettings : w.settings = {}) (hcustom : w.registry.customPrefixes = [])
    (body : Text) : w.body ('!' :: body) = body := by
  have hprefixes : w.prefixes = ["!".toList] := by
    rw [World.prefixes, hsettings, hcustom]
    rfl
  rw [World.body, World.matchedPrefix?, hprefixes]
  rfl

/-- **A command applies its function** to its own arguments and those from the pipe. -/
theorem parse_run_of_installed (message : Record) (hsettings : w.settings = {})
    (hcustom : w.registry.customPrefixes = []) (h : c.IsInstalled meaning w) {body : Text}
    {own : List Text} (hwords : words body = (c.name, own)) (extra : List Text) :
    ∃ log, (parse meaning (message.withMessage ('!' :: body)) extra).run w =
      ⟨.ok (.reply (c.apply (Text.joinWith [' '] (own ++ extra)))), w, log⟩ := by
  obtain ⟨entry, hlookup, hglobal, hreplies⟩ := h.registered
  have hbody : words (w.body (message.withMessage ('!' :: body)).message) = (c.name, own) := by
    rw [← hwords]
    exact congrArg words (body_cons hsettings hcustom body)
  have hresolve : w.resolve (message.withMessage ('!' :: body)) extra = .call c.name entry _ :=
    resolve_of_pass hbody hlookup (.inl hglobal)
  obtain ⟨invocation, hinvocation⟩ : ∃ i : Invocation, i =
      { message := (message.withMessage ('!' :: body)).withMessage (w.body ('!' :: body))
        args := own ++ extra } := ⟨_, rfl⟩
  have hrest : invocation.rest = Text.joinWith [' '] (own ++ extra) := by
    rw [hinvocation, Invocation.rest]
  obtain ⟨houtcome, hworld⟩ := hreplies invocation
  rcases hrun : (meaning entry invocation).run w with ⟨outcome, w', log⟩
  rw [hrun, hrest] at houtcome
  rw [hrun] at hworld
  cases houtcome
  cases hworld
  refine ⟨⟨.running c.name invocation, none⟩ :: log, ?_⟩
  rw [parse_run, hresolve]
  simp only [Record.withMessage] at hinvocation
  simp only [Resolution.act, Action.run_mapError, Record.withMessage, ← hinvocation, hrun]
  rfl

/-- The rest of a pipe composes the functions of its commands. -/
theorem continuePipe_textCommands (message : Record) (hsettings : w.settings = {})
    (hcustom : w.registry.customPrefixes = []) (hall : ∀ d ∈ cs, d.IsInstalled meaning w)
    (t : Text) :
    ∃ log, (continuePipe meaning message (.reply t) (cs.map fun d => '!' :: d.name)).run w =
      ⟨.ok (.reply (cs.foldl (fun t d => d.apply t) t)), w, log⟩ := by
  induction cs generalizing t with
  | nil => exact ⟨[], rfl⟩
  | cons d ds ih =>
    have hd : d.IsInstalled meaning w := hall d List.mem_cons_self
    obtain ⟨log, hparse⟩ := parse_run_of_installed message hsettings hcustom hd
      (words_of_not_mem hd.no_space) [t]
    rw [List.nil_append, Text.joinWith_singleton] at hparse
    obtain ⟨log', hrest⟩ := ih (fun e he => hall e (List.mem_cons_of_mem d he)) (d.apply t)
    refine ⟨log ++ log', ?_⟩
    have hstep : continuePipe meaning message (.reply t) ((d :: ds).map fun d => '!' :: d.name) =
        parse meaning (message.withMessage ('!' :: d.name)) [t] >>= fun next =>
          continuePipe meaning message next (ds.map fun d => '!' :: d.name) := rfl
    rw [hstep, Action.run_bind_of_ok hparse, hrest]
    rfl

/-- The first segment of a pipe without its blanks: the name and words that make up the input. -/
theorem exists_words_of_trim (h : c.IsInstalled meaning w)
    (hlast : ∀ d, input.getLast? = some d → isBlank d = false) :
    ∃ body own, Text.trim ('!' :: c.name ++ ' ' :: input) = '!' :: body ∧
      words body = (c.name, own) ∧ Text.joinWith [' '] own = input := by
  cases input with
  | nil =>
    -- the space behind the name is trimmed
    have hpadded := Text.trim_padded (List.forall_mem_nil _) isBlank_of_mem_space ('!' :: c.name)
    exact ⟨c.name, [], hpadded.trans h.trim_prefixed, words_of_not_mem h.no_space, rfl⟩
  | cons d ds =>
    refine ⟨c.name ++ ' ' :: d :: ds, Text.splitOn ' ' (d :: ds), ?_,
      words_append_cons h.no_space _, Text.joinWith_splitOn ' ' _⟩
    apply Text.trim_of_ends
    · intro e he
      cases he
      decide
    · intro e he
      apply hlast e
      rw [List.getLast?_append, List.getLast?_cons_cons,
        List.getLast?_eq_some_getLast (List.cons_ne_nil d ds)] at he
      rw [List.getLast?_eq_some_getLast (List.cons_ne_nil d ds)]
      exact he

theorem not_mem_first (h : c.IsInstalled meaning w) (hbar : '|' ∉ input) :
    '|' ∉ '!' :: c.name ++ ' ' :: input := by
  simp only [List.cons_append, List.mem_cons, List.mem_append, not_or]
  exact ⟨by decide, h.no_bar, by decide, hbar⟩

/-- The segments of a pipe of commands: only the first one has more than a name. -/
theorem segments_pipeText (hinstalled : ∀ d ∈ c :: cs, d.IsInstalled meaning w)
    (hbar : '|' ∉ input) :
    segments (pipeText c input cs) =
      Text.trim ('!' :: c.name ++ ' ' :: input) :: cs.map fun d => '!' :: d.name := by
  have hnames : (cs.map fun d => '!' :: d.name).map Text.trim = cs.map fun d => '!' :: d.name := by
    rw [List.map_map]
    apply List.map_congr_left
    intro d hd
    exact (hinstalled d (List.mem_cons_of_mem c hd)).trim_prefixed
  rw [pipeText, segments_joinWith, List.map_cons, hnames]
  intro piece hpiece
  obtain rfl | hpiece := List.mem_cons.mp hpiece
  · exact not_mem_first (hinstalled c List.mem_cons_self) hbar
  · obtain ⟨d, hd, rfl⟩ := List.mem_map.mp hpiece
    rw [List.mem_cons, not_or]
    exact ⟨by decide, (hinstalled d (List.mem_cons_of_mem c hd)).no_bar⟩

/-- The segments of a pipe of commands compose their functions. -/
theorem runPipe_textCommands (message : Record) (hsettings : w.settings = {})
    (hcustom : w.registry.customPrefixes = [])
    (hinstalled : ∀ d ∈ c :: cs, d.IsInstalled meaning w) (hbar : '|' ∉ input)
    (hlast : ∀ d, input.getLast? = some d → isBlank d = false) :
    ∃ log, (runPipe meaning message (segments (pipeText c input cs))).run w =
      ⟨.ok (.reply (cs.foldl (fun t d => d.apply t) (c.apply input))), w, log⟩ := by
  have hc : c.IsInstalled meaning w := hinstalled c List.mem_cons_self
  obtain ⟨body, own, htrim, hwords, hjoin⟩ := exists_words_of_trim hc hlast
  obtain ⟨log, hparse⟩ := parse_run_of_installed message hsettings hcustom hc hwords []
  obtain ⟨log', hrest⟩ := continuePipe_textCommands message hsettings hcustom
    (fun d hd => hinstalled d (List.mem_cons_of_mem c hd)) (c.apply input)
  rw [List.append_nil, hjoin] at hparse
  refine ⟨log ++ log', ?_⟩
  rw [segments_pipeText hinstalled hbar, htrim, runPipe, Action.run_bind_of_ok hparse, hrest]

end TextCommands

/-- **A pipe of text commands is the composition of their functions.**  With the usual settings, and
no prefix besides, the pipe of installed commands replies what their functions make of the input one
after the other, for every input that has no bar and does not end in a blank, and whatever the texts
in between are. -/
theorem parsePiped_textCommands (meaning : Meaning H M) (message : Record) (w : World H M)
    (c : TextCommand) (cs : List TextCommand) (input : Text) (hsettings : w.settings = {})
    (hcustom : w.registry.customPrefixes = [])
    (hinstalled : ∀ d ∈ c :: cs, d.IsInstalled meaning w) (hbar : '|' ∉ input)
    (hlast : ∀ d, input.getLast? = some d → isBlank d = false) :
    ∃ log, (parsePiped meaning (message.withMessage (pipeText c input cs))).run w =
      ⟨.ok (.reply (cs.foldl (fun t d => d.apply t) (c.apply input))), w, log⟩ := by
  have hc : c.IsInstalled meaning w := hinstalled c List.mem_cons_self
  by_cases hpipe : '|' ∈ pipeText c input cs
  · obtain ⟨log, hrun⟩ := runPipe_textCommands (message.withMessage (pipeText c input cs)) hsettings
      hcustom hinstalled hbar hlast
    have hpipes : w.settings.pipes = true := by
      rw [hsettings]
    refine ⟨log, ?_⟩
    rw [parsePiped_run meaning (message.withMessage (pipeText c input cs)) hpipes hpipe,
      ← runPipe_run]
    exact hrun
  · -- there is only one command, and nothing is trimmed
    have hnil : cs = [] := by
      cases cs with
      | nil => rfl
      | cons d ds => exact absurd (Text.mem_joinWith_cons_cons (by decide) _ _ _) hpipe
    cases hnil
    obtain ⟨log, hparse⟩ := parse_run_of_installed message hsettings hcustom hc
      (words_append_cons hc.no_space input) []
    rw [List.append_nil, Text.joinWith_splitOn] at hparse
    refine ⟨log, ?_⟩
    rw [parsePiped_run_of_not_pipe meaning (message.withMessage (pipeText c input []))
      fun h => hpipe h.2]
    rw [pipeText, List.map_nil, Text.joinWith_singleton]
    exact hparse

theorem isBlank_eq_false_of_all {s : Text} (h : s.all (fun d => !isBlank d) = true) :
    ∀ d ∈ s, isBlank d = false := by
  intro d hd
  have hnot : (!isBlank d) = true := List.all_eq_true.mp h d hd
  rwa [Bool.not_eq_true'] at hnot

/-- Handlers that are functions on texts. -/
def textMeaning : Meaning (Text → Text) Unit := fun entry invocation =>
  return .reply (entry.handler invocation.rest)

/-- A command that appends a bar and what looks like a command. -/
def barCommand : TextCommand := ⟨"bar".toList, (· ++ " | !bar ".toList)⟩

/-- A command that reverses. -/
def reverseCommand : TextCommand := ⟨"rev".toList, List.reverse⟩

/-- A world with two text commands. -/
def textWorld : World (Text → Text) Unit where
  registry :=
    ((Registry.empty.register { name := barCommand.name, handler := barCommand.apply }).2.register
      { name := reverseCommand.name, handler := reverseCommand.apply }).2
  memory := ()

/-- The space in front of the input and the bar behind it go through. -/
theorem parsePiped_textCommands_bar :
    pipeText barCommand " a".toList [reverseCommand] = "!bar  a | !rev".toList ∧
    ((parsePiped textMeaning { channel := "den".toList, message := "!bar  a | !rev".toList }).run
      textWorld).outcome = .ok (.reply " rab! | a ".toList) := by
  have hbar : barCommand.IsInstalled textMeaning textWorld :=
    ⟨isBlank_eq_false_of_all rfl, by decide, _, rfl, rfl, fun _ => ⟨rfl, rfl⟩⟩
  have hreverse : reverseCommand.IsInstalled textMeaning textWorld :=
    ⟨isBlank_eq_false_of_all rfl, by decide, _, rfl, rfl, fun _ => ⟨rfl, rfl⟩⟩
  have hinstalled : ∀ d ∈ [barCommand, reverseCommand], d.IsInstalled textMeaning textWorld :=
    List.forall_mem_cons.mpr ⟨hbar, List.forall_mem_singleton.mpr hreverse⟩
  have hlast : ∀ d, " a".toList.getLast? = some d → isBlank d = false := by
    intro d hd
    obtain rfl : 'a' = d := Option.some.inj hd
    rfl
  obtain ⟨log, h⟩ := parsePiped_textCommands textMeaning { channel := "den".toList, message := [] }
    textWorld barCommand [reverseCommand] " a".toList rfl rfl hinstalled (by decide) hlast
  have hpipe : pipeText barCommand " a".toList [reverseCommand] = "!bar  a | !rev".toList := rfl
  rw [hpipe] at h
  exact ⟨hpipe, congrArg Run.outcome h⟩

end Switchboard
