import Switchboard.Proofs.Command.Lookup
import Switchboard.Proofs.Command.Prefix
import Switchboard.Proofs.Command.Program

/-!
# What a handler is called with

A message is taken apart into its prefix, the name of a command and the words behind it, and nothing
of it is lost on the way: written one behind the other with single spaces, the parts are the message
again.

* `matchedPrefix_append_body`, `joinWith_words`: the two cuts.
* `Meaning.noted`: handlers of which every call is noted.
* `Spells`: an invocation from which the message can be read back.
* `runs_parse`: running a command makes at most one call, and it is of that kind.
-/

namespace Switchboard

variable {H M : Type}

/-! ## Cutting off the prefix -/

/-- The prefix that a text is freed of is what it starts with. -/
theorem matchedPrefix_append_body (w : World H M) (text : Text) :
    (w.matchedPrefix? text).getD [] ++ w.body text = text := by
  rw [World.body]
  cases hmatched : w.matchedPrefix? text with
  | none => rfl
  | some p =>
    obtain ⟨rest, rfl⟩ := (longestPrefix?_eq_some_iff.mp hmatched).starts
    show p ++ (p ++ rest).drop p.length = p ++ rest
    rw [List.drop_left]

/-! ## Cutting into words -/

theorem joinWith_space_cons (name : Text) (own : List Text) :
    Text.joinWith [' '] (name :: own) = name ++ own.flatMap (' ' :: ·) := by
  induction own generalizing name with
  | nil => simp
  | cons t rest ih =>
    rw [Text.joinWith_cons _ _ (List.cons_ne_nil t rest), ih t, List.flatMap_cons]
    simp

/-- **The words of a text with single spaces between them are the text**, and no word has a space. -/
theorem joinWith_words {body name : Text} {own : List Text} (h : words body = (name, own)) :
    Text.joinWith [' '] (name :: own) = body ∧ ∀ t ∈ name :: own, ' ' ∉ t := by
  have hsplit : Text.splitOn ' ' body = name :: own := by
    rw [words] at h
    split at h
    · next hnil => exact absurd hnil (Text.splitOn_ne_nil ' ' body)
    · next hcons =>
      cases h
      exact hcons
  rw [← hsplit]
  exact ⟨Text.joinWith_splitOn ' ' body, fun t ht => Text.not_mem_of_mem_splitOn ht⟩

/-! ## Calls -/

/-- The handlers, of which every call is noted first, with the world as it is then. -/
def Meaning.noted (meaning : Meaning H M) : Meaning H (M × List (Call H M)) :=
  fun entry invocation =>
    World.notebook.noticing (fun w => ⟨entry, invocation, w⟩) (meaning entry invocation)

/-- The call that acting on a resolution makes, if it makes one. -/
def Resolution.calls (w : World H M) : Resolution H → List (Call H M)
  | unknown _ | elsewhere _ _ => []
  | call _ entry invocation => [⟨entry, invocation, w⟩]

theorem makes_act (meaning : Meaning H M) (w : World H M) (resolution : Resolution H) :
    World.notebook.Makes w (resolution.calls w) (resolution.act meaning)
      (resolution.act meaning.noted) := by
  cases resolution with
  | unknown name => exact .pure CommandResult.silent
  | elsewhere name channel => exact .pure CommandResult.silent
  | call name entry invocation =>
    exact (Notebook.makes_noticing _ (meaning entry invocation)).mapError
      (Failure.command name)

/-- Running a command makes the call of its resolution. -/
theorem makes_parse (meaning : Meaning H M) (message : Record) (extra : List Text)
    (w : World H M) :
    World.notebook.Makes w ((w.resolve message extra).calls w) (parse meaning message extra)
      (parse meaning.noted message extra) := by
  intro seen
  have hresolve : (World.notebook.put w seen).resolve message extra = w.resolve message extra := rfl
  rw [parse_run, parse_run, hresolve, makes_act meaning w (w.resolve message extra) seen]

/-- From the invocation of a command of the name, the message can be read back: behind the prefix that
it matches comes the body, and the body is the name and the command's own arguments with single spaces
between them. -/
structure Spells (w : World H M) (message : Record) (extra : List Text) (name : Text)
    (invocation : Invocation) : Prop where
  message_eq : message.message =
    (w.matchedPrefix? message.message).getD [] ++ invocation.message.message
  args_eq : ∃ own, invocation.args = own ++ extra ∧
    invocation.message.message = name ++ own.flatMap (' ' :: ·) ∧
    invocation.message.message = Text.joinWith [' '] (name :: own) ∧ ∀ t ∈ own, ' ' ∉ t
  name_whole : ' ' ∉ name
  channel_eq : invocation.message.channel = message.channel
  extra_eq : invocation.message.extra = message.extra

theorem spells_of_resolve {w : World H M} {message : Record} {extra : List Text} {name : Text}
    {entry : Entry H} {invocation : Invocation}
    (h : w.resolve message extra = .call name entry invocation) :
    Spells w message extra name invocation := by
  obtain ⟨rfl, -, -, rfl⟩ := resolve_eq_call_iff.mp h
  have hwords : words (w.body message.message) = ((words (w.body message.message)).1, _) := rfl
  obtain ⟨hjoin, hspace⟩ := joinWith_words hwords
  obtain ⟨hname, hown⟩ := List.forall_mem_cons.mp hspace
  refine ⟨(matchedPrefix_append_body w message.message).symm, ⟨_, rfl, ?_, hjoin.symm, hown⟩, hname,
    rfl, rfl⟩
  rw [← joinWith_space_cons]
  exact hjoin.symm

/-- The command of the name is not registered, or it only runs in the home room and the message is
from elsewhere. -/
def World.Declines (w : World H M) (message : Record) (name : Text) : Prop :=
  w.registry.lookup name = none ∨
    ∃ entry, w.registry.lookup name = some entry ∧ entry.global = false ∧
      message.channel ≠ w.config.room

/-- The name is that of the resolution. -/
def Resolution.name : Resolution H → Text
  | unknown name | elsewhere name _ | call name _ _ => name

theorem Resolution.event_lookedUp? (resolution : Resolution H) :
    resolution.event.lookedUp? = some resolution.name := by
  cases resolution <;> rfl

/-- A message makes no call just if its command is declined. -/
theorem calls_resolve_eq_nil_iff {w : World H M} {message : Record} {extra : List Text} :
    (w.resolve message extra).calls w = [] ↔
      w.Declines message (w.resolve message extra).name := by
  obtain ⟨name, own, hwords⟩ : ∃ name own, words (w.body message.message) = (name, own) :=
    ⟨_, _, rfl⟩
  cases hlookup : w.registry.lookup name with
  | none =>
    rw [resolve_of_lookup_eq_none hwords hlookup]
    exact ⟨fun _ => .inl hlookup, fun _ => rfl⟩
  | some entry =>
    by_cases hpass : entry.global = true ∨ message.channel = w.config.room
    · rw [resolve_of_pass hwords hlookup hpass]
      refine ⟨fun h => (nomatch h), ?_⟩
      rintro (hnone | ⟨entry', hlookup', hglobal, hroom⟩)
      · rw [Resolution.name, hlookup] at hnone
        cases hnone
      · rw [Resolution.name, hlookup] at hlookup'
        cases hlookup'
        rw [hglobal] at hpass
        exact absurd hpass (not_or.mpr ⟨Bool.false_ne_true, hroom⟩)
    · rw [not_or, Bool.not_eq_true] at hpass
      rw [resolve_of_elsewhere hwords hlookup hpass.1 hpass.2]
      exact ⟨fun _ => .inr ⟨entry, hlookup, hpass⟩, fun _ => rfl⟩

/-- A resolution that makes no call is silent and changes nothing. -/
theorem act_run_of_calls_eq_nil (meaning : Meaning H M) {w : World H M} {resolution : Resolution H}
    (h : resolution.calls w = []) : (resolution.act meaning).run w = ⟨.ok .silent, w, []⟩ := by
  cases resolution with
  | unknown name => rfl
  | elsewhere name channel => rfl
  | call name entry invocation => cases h

/-! ## Running a command -/

/-- All that running a message as a command comes to, by the name that is looked up and the calls that
are made. -/
structure Runs (meaning : Meaning H M) (message : Record) (extra : List Text) (w : World H M)
    (name : Text) (calls : List (Call H M)) : Prop where
  /-- The only look-up is that of the name; what a handler looks up besides is its own affair. -/
  one_lookup : lookedUp ((parse meaning message extra).run w).log =
    name :: calls.flatMap fun c => lookedUp ((meaning c.entry c.invocation).run c.world).log
  /-- These are the calls, and there is at most one. -/
  calls_made : World.notebook.Makes w calls (parse meaning message extra)
    (parse meaning.noted message extra)
  one_call : calls.length ≤ 1
  /-- A call is of the command of the name, in the world as it was, with an invocation from which the
  message can be read back; the handler's answer is the answer. -/
  called : ∀ c ∈ calls, c.world = w ∧ w.registry.lookup name = some c.entry ∧
    Spells w message extra name c.invocation ∧
    ((parse meaning message extra).run w).outcome =
      ((meaning c.entry c.invocation).run w).outcome.mapError (.command name)
  /-- A call is made just if the command is not declined. -/
  calls_eq_nil_iff : calls = [] ↔ w.Declines message name
  /-- If it is declined, the answer is silence, and nothing changes. -/
  declined : w.Declines message name →
    ((parse meaning message extra).run w).outcome = .ok .silent ∧
      ((parse meaning message extra).run w).world = w

/-- **Parsing loses no character.**  Every message is looked up as one command, whatever its prefix,
its words and the further arguments are, and from the invocation that a handler is called with, if
there is one, the message can be read back. -/
theorem runs_parse (meaning : Meaning H M) (message : Record) (extra : List Text) (w : World H M) :
    ∃ name calls, Runs meaning message extra w name calls := by
  refine ⟨(w.resolve message extra).name, (w.resolve message extra).calls w, ?_⟩
  have hnil : (w.resolve message extra).calls w = [] ↔
      w.Declines message (w.resolve message extra).name := calls_resolve_eq_nil_iff
  refine ⟨?_, makes_parse meaning message extra w, ?_, ?_, hnil, ?_⟩
  · rw [parse_run, lookedUp_cons_of_some (Resolution.event_lookedUp? _)]
    cases w.resolve message extra with
    | unknown name => rfl
    | elsewhere name channel => rfl
    | call name entry invocation => simp [Resolution.calls, Resolution.act, Resolution.name]
  · cases w.resolve message extra <;> simp [Resolution.calls]
  · intro c hc
    cases hresolve : w.resolve message extra with
    | unknown name => rw [hresolve] at hc; cases hc
    | elsewhere name channel => rw [hresolve] at hc; cases hc
    | call name entry invocation =>
      rw [hresolve] at hc
      obtain rfl := List.mem_singleton.mp hc
      refine ⟨rfl, ?_, spells_of_resolve hresolve, ?_⟩
      · obtain ⟨rfl, hlookup, -, -⟩ := resolve_eq_call_iff.mp hresolve
        exact hlookup
      · rw [parse_run, hresolve]
        rfl
  · intro hdeclines
    have hact := act_run_of_calls_eq_nil meaning (hnil.mpr hdeclines)
    rw [parse_run, hact]
    exact ⟨rfl, rfl⟩

end Switchboard
