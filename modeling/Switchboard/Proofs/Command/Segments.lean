import Switchboard.Command.Pipe
import Switchboard.Proofs.Text.Split

/-!
# Segments and words

What becomes of a message that is put together from parts when it is taken apart as a pipe or as a
command.

* `segments_append`, `segments_of_not_mem`: a bar between two parts, and a part without bars.
* `segments_joinWith`: a pipe that is written with spaces around its bars.
* `words_append_cons`: a name and what follows it.
-/

namespace Switchboard

/-! ## Segments -/

theorem segments_ne_nil (text : Text) : segments text ≠ [] :=
  fun h => Text.splitOn_ne_nil '|' text (List.map_eq_nil_iff.mp h)

theorem segments_of_not_mem {text : Text} (h : '|' ∉ text) : segments text = [text.trim] := by
  rw [segments, Text.splitOn_of_not_mem h, List.map_singleton]

theorem segments_append (text rest : Text) :
    segments (text ++ '|' :: rest) = segments text ++ segments rest := by
  rw [segments, Text.splitOn_append_cons, List.map_append]
  rfl

theorem isBlank_of_mem_space : ∀ d ∈ [' '], isBlank d = true := List.forall_mem_singleton.mpr rfl

theorem not_mem_of_blanks {lead : Text} (h : ∀ d ∈ lead, isBlank d = true) : '|' ∉ lead :=
  fun hmem => absurd (h '|' hmem) (by decide)

/-- Blanks in front of a pipe do not matter. -/
theorem segments_blanks_joinWith {piece : Text} {rest : List Text}
    (hbar : ∀ p ∈ piece :: rest, '|' ∉ p) {lead : Text} (hlead : ∀ d ∈ lead, isBlank d = true) :
    segments (lead ++ Text.joinWith " | ".toList (piece :: rest)) =
      (piece :: rest).map Text.trim := by
  induction rest generalizing piece lead with
  | nil =>
    have hpiece : '|' ∉ lead ++ piece := by
      rw [List.mem_append, not_or]
      exact ⟨not_mem_of_blanks hlead, hbar piece List.mem_cons_self⟩
    have htrim := Text.trim_padded hlead (List.forall_mem_nil _) piece
    rw [List.append_nil] at htrim
    rw [Text.joinWith_singleton, segments_of_not_mem hpiece, htrim, List.map_singleton]
  | cons next rest ih =>
    obtain ⟨hpiece, hrest⟩ := List.forall_mem_cons.mp hbar
    -- the space behind the bar is in front of the next piece
    have hcut : lead ++ Text.joinWith " | ".toList (piece :: next :: rest) =
        (lead ++ piece ++ [' ']) ++ '|' :: ([' '] ++ Text.joinWith " | ".toList (next :: rest)) := by
      rw [Text.joinWith_cons _ _ (List.cons_ne_nil next rest)]
      simp only [List.append_assoc]
      rfl
    have hfirst : '|' ∉ lead ++ piece ++ [' '] := by
      rw [List.mem_append, List.mem_append, not_or, not_or]
      exact ⟨⟨not_mem_of_blanks hlead, hpiece⟩, not_mem_of_blanks isBlank_of_mem_space⟩
    rw [hcut, segments_append, segments_of_not_mem hfirst, ih hrest isBlank_of_mem_space,
      Text.trim_padded hlead isBlank_of_mem_space]
    rfl

/-- **The segments of a pipe that is written with spaces around its bars.** -/
theorem segments_joinWith {piece : Text} {rest : List Text} (hbar : ∀ p ∈ piece :: rest, '|' ∉ p) :
    segments (Text.joinWith " | ".toList (piece :: rest)) = (piece :: rest).map Text.trim :=
  segments_blanks_joinWith hbar (List.forall_mem_nil _)

/-! ## Words -/

theorem words_of_not_mem {name : Text} (h : ' ' ∉ name) : words name = (name, []) := by
  rw [words, Text.splitOn_of_not_mem h]

theorem words_append_cons {name : Text} (h : ' ' ∉ name) (rest : Text) :
    words (name ++ ' ' :: rest) = (name, Text.splitOn ' ' rest) := by
  rw [words, Text.splitOn_append_cons, Text.splitOn_of_not_mem h]
  rfl

end Switchboard
