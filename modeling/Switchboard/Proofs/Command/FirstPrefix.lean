import Switchboard.Proofs.Command.Threading
import Switchboard.Proofs.Markup.TagFree

/-!
# The prefix of the first command

The filter for commands looks for a prefix at the start of the whole message, and a pipe looks for
one at the start of its first segment, which is cut off at a bar and trimmed.  As long as prefixes
hold no bar and do not end in a blank, and the message does not start with one, both find the same:
the cut does not change what the message starts with before the bar, and no prefix reaches into the
blanks that are trimmed.

* `prefix_segment_iff`: what the first segment starts with.
* `FirstCommand`: the command that the run of a message starts with.
* `prefix_of_firstCommand`: the filter and the first command agree on the prefix.
-/

namespace Switchboard

variable {H M : Type}

/-! ## The first piece -/

/-- **A prefix without bars that does not end in a blank** starts a text that does not start with a
blank just if it starts its first segment. -/
theorem prefix_segment_iff {p text first : Text} {rest : List Text} (hbar : '|' ∉ p)
    (hlast : ∀ c, p.getLast? = some c → isBlank c = false)
    (hstart : ∀ c, text.head? = some c → isBlank c = false)
    (hsegments : segments text = first :: rest) : p <+: first ↔ p <+: text := by
  obtain ⟨piece, pieces, hsplit, hpiece⟩ := Text.exists_splitOn_eq '|' text
  have hfirst : first = piece.trim := by
    rw [segments, hsplit] at hsegments
    exact (List.cons.inj hsegments).1.symm
  have hprefix : piece <+: text := by
    rcases hpiece with rfl | ⟨after, rfl⟩ <;> simp
  have htrim : piece.trim = piece.trimEnd := by
    rw [Text.trim, Text.trimStart_of_head]
    intro c hc
    exact hstart c (Text.head?_mono hprefix hc)
  rw [hfirst, htrim, Text.prefix_trimEnd_iff hlast]
  rcases hpiece with rfl | ⟨after, rfl⟩
  · rfl
  · have hcut := Text.isPrefixOf_append_cons hbar piece after
    rw [Bool.eq_iff_iff] at hcut
    simpa using hcut.symm

/-- The prefixes in force hold no bar and do not end in a blank. -/
def World.PlainPrefixes (w : World H M) : Prop :=
  ∀ p ∈ w.prefixes, '|' ∉ p ∧ ∀ c, p.getLast? = some c → isBlank c = false

theorem matchedPrefix?_segment {w : World H M} {text first : Text} {rest : List Text}
    (hprefixes : w.PlainPrefixes) (hstart : ∀ c, text.head? = some c → isBlank c = false)
    (hsegments : segments text = first :: rest) : w.matchedPrefix? first = w.matchedPrefix? text := by
  have hfilter : w.prefixes.filter (·.isPrefixOf first) = w.prefixes.filter (·.isPrefixOf text) := by
    apply List.filter_congr
    intro p hp
    rw [Bool.eq_iff_iff, List.isPrefixOf_iff_prefix, List.isPrefixOf_iff_prefix]
    exact prefix_segment_iff (hprefixes p hp).1 (hprefixes p hp).2 hstart hsegments
  rw [World.matchedPrefix?, World.matchedPrefix?, longestPrefix?, longestPrefix?, hfilter]

/-! ## The first command -/

/-- The run of a message starts with the command of `text`, of which `body` is looked up and handed
on. -/
structure FirstCommand (meaning : Meaning H M) (message : Record) (w : World H M)
    (text body : Text) : Prop where
  /-- The text is the first segment, or the message itself if it does not run as a pipe. -/
  text_eq : (commandTexts w.settings.pipes message.message).head? = some text
  /-- What the command comes to is reported and acted on first; its name is the first word of the
  body, and a handler that is called gets the body for its message and the other words. -/
  starts : ∃ (resolution : Resolution H) (later : List LogEntry),
    ((parsePiped meaning message).run w).log =
      ⟨resolution.event, none⟩ :: ((resolution.act meaning).run w).log ++ later ∧
    resolution.name = (words body).1 ∧
    ∀ name entry invocation, resolution = .call name entry invocation →
      invocation = { message := message.withMessage body, args := (words body).2 }

open PipeState in
/-- The first command is that of the first text, without the prefix that it matches. -/
theorem firstCommand_body (meaning : Meaning H M) (message : Record) (w : World H M) :
    ∃ text rest, commandTexts w.settings.pipes message.message = text :: rest ∧
      FirstCommand meaning message w text (w.body text) := by
  obtain ⟨text, rest, htexts⟩ :=
    List.exists_cons_of_ne_nil (commandTexts_ne_nil w.settings.pipes message.message)
  refine ⟨text, rest, htexts, by rw [htexts]; rfl, w.resolve (message.withMessage text) [], ?_⟩
  have hfresh : (Progress.fresh).extra? = some [] := rfl
  let first : PipeState H M := advance meaning message { world := w } text []
  obtain ⟨later, hlater⟩ : first.log <+: (rest.foldl (step meaning message) first).log :=
    prefix_foldl_step rest first
  refine ⟨later, ?_, ?_, ?_⟩
  · rw [parsePiped_run_commandTexts, htexts, behind, List.foldl_cons, step_of_some hfresh,
      PipeState.run, ← hlater, advance]
    rfl
  · have hevent := event_resolve_lookedUp? w (message.withMessage text) []
    rw [Resolution.event_lookedUp?] at hevent
    exact Option.some.inj hevent
  · intro name entry invocation hcall
    obtain ⟨-, -, -, rfl⟩ := resolve_eq_call_iff.mp hcall
    simp [Record.withMessage]

/-- What the first command starts with is what the message starts with. -/
theorem matchedPrefix?_of_commandTexts {w : World H M} {message : Record} {text : Text}
    {rest : List Text} (hprefixes : w.PlainPrefixes)
    (hstart : ∀ c, message.message.head? = some c → isBlank c = false)
    (htexts : commandTexts w.settings.pipes message.message = text :: rest) :
    w.matchedPrefix? text = w.matchedPrefix? message.message := by
  rw [commandTexts] at htexts
  split at htexts
  · exact matchedPrefix?_segment hprefixes hstart htexts
  · rw [(List.cons.inj htexts).1]

/-- **The filter for commands and the first command of a pipe agree on the prefix.**  The first
segment starts with the same longest prefix as the whole message, or neither starts with one.  So a
message that the filter lets pass has just the prefix for which it passes taken off its first
command, and one that is held back has nothing taken off.  Reduced messages do not start with a
blank. -/
theorem prefix_of_firstCommand (meaning : Meaning H M) (message : Record) (w : World H M)
    (hprefixes : w.PlainPrefixes)
    (hstart : ∀ c, message.message.head? = some c → isBlank c = false) :
    (∃ first rest, segments message.message = first :: rest ∧
      w.matchedPrefix? first = w.matchedPrefix? message.message) ∧
    (∀ r, w.isCommand? message = some r → ∃ p body,
      w.matchedPrefix? message.message = some p ∧
        FirstCommand meaning message w (p ++ body) body) ∧
    (w.isCommand? message = none → ∃ text, FirstCommand meaning message w text text) ∧
    ∀ html text, Markup.reduce html = .ok text →
      ∀ c, text.head? = some c → isBlank c = false := by
  obtain ⟨text, rest, htexts, hfirst⟩ := firstCommand_body meaning message w
  have hmatched := matchedPrefix?_of_commandTexts hprefixes hstart htexts
  have htext := matchedPrefix_append_body w text
  rw [hmatched] at htext
  refine ⟨?_, ?_, ?_, ?_⟩
  · obtain ⟨first, others, hsegments⟩ :=
      List.exists_cons_of_ne_nil (segments_ne_nil message.message)
    exact ⟨first, others, hsegments, matchedPrefix?_segment hprefixes hstart hsegments⟩
  · intro r hr
    obtain ⟨p, hp, -⟩ := Option.map_eq_some_iff.mp hr
    rw [hp, Option.getD_some] at htext
    exact ⟨p, w.body text, hp, by rw [htext]; exact hfirst⟩
  · intro hr
    have hnone : w.matchedPrefix? message.message = none := Option.map_eq_none_iff.mp hr
    rw [hnone, Option.getD_none, List.nil_append] at htext
    rw [htext] at hfirst
    exact ⟨text, hfirst⟩
  · intro html text hreduce c hc
    obtain ⟨t, -, rfl⟩ := Markup.exists_of_reduce hreduce
    exact Text.isBlank_of_head?_trim hc

/-- A world whose only command `say` has a prefix of its own with a space inside. -/
def spacedWorld : World (Except Failure CommandResult) Unit :=
  { registry := (Registry.empty.register
      { name := "say".toList, handler := .ok .silent, customPrefix := some "! !".toList }).2
    memory := () }

/-- A message with two prefixes to choose from, and a bar. -/
def spacedRecord : Record := { channel := "global".toList, message := "! !say |! say".toList }

theorem plainPrefixes_spacedWorld : spacedWorld.PlainPrefixes := by
  have hprefixes : spacedWorld.prefixes = ["!".toList, "! !".toList] := by decide +kernel
  intro p hp
  rw [hprefixes] at hp
  have hlast : p.getLast? = some '!' := by
    rcases List.mem_pair.mp hp with rfl | rfl <;> rfl
  refine ⟨?_, ?_⟩
  · rcases List.mem_pair.mp hp with rfl | rfl <;> decide
  · intro c hc
    rw [hlast] at hc
    cases hc
    decide

/-- The longer prefix, which begins with the other one, is taken off the first command, and the
handler is called with what is behind it. -/
theorem prefix_of_firstCommand_spaced :
    spacedWorld.matchedPrefix? spacedRecord.message = some "! !".toList ∧
      FirstCommand fixedAnswer spacedRecord spacedWorld "! !say".toList "say".toList := by
  have hstart : ∀ c, spacedRecord.message.head? = some c → isBlank c = false := by
    rintro c ⟨⟩
    decide
  have hcommand : spacedWorld.isCommand? spacedRecord = some spacedRecord := by decide +kernel
  obtain ⟨p, body, hp, hfirst⟩ := (prefix_of_firstCommand fixedAnswer spacedRecord spacedWorld
    plainPrefixes_spacedWorld hstart).2.1 spacedRecord hcommand
  have hmatched : spacedWorld.matchedPrefix? spacedRecord.message = some "! !".toList := by
    decide +kernel
  have htext : (commandTexts spacedWorld.settings.pipes spacedRecord.message).head? =
      some ("! !".toList ++ "say".toList) := by
    decide +kernel
  rw [hmatched] at hp
  cases hp
  rw [hfirst.text_eq] at htext
  obtain rfl := List.append_cancel_left (Option.some.inj htext)
  exact ⟨hmatched, hfirst⟩

end Switchboard
