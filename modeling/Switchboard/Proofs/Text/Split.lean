import Switchboard.Text.Blank

/-!
# Cutting and trimming

What becomes of a text that is put together from parts when it is cut at a character, and what
trimming leaves of it.

* `splitOn_append_cons`: a cut between two parts.
* `splitOn_of_not_mem`: a text without the character is one piece.
* `trim_padded`, `trim_of_ends`: blanks around a text are trimmed, and nothing else.
* `trim_trim`, `prefix_trimEnd_iff`: what a trimmed text starts and ends with.
-/

namespace Switchboard.Text

/-! ## Cutting -/

theorem splitOn_cons_self (sep : Char) (s : Text) :
    splitOn sep (sep :: s) = [] :: splitOn sep s := if_pos rfl

theorem splitOn_cons_of_ne {sep c : Char} (h : c ≠ sep) {s piece : Text} {pieces : List Text}
    (hs : splitOn sep s = piece :: pieces) : splitOn sep (c :: s) = (c :: piece) :: pieces := by
  rw [splitOn, if_neg h, hs]

/-- **A cut between two parts** leaves the pieces of both. -/
theorem splitOn_append_cons (sep : Char) (s t : Text) :
    splitOn sep (s ++ sep :: t) = splitOn sep s ++ splitOn sep t := by
  induction s with
  | nil => exact splitOn_cons_self sep t
  | cons c cs ih =>
    rw [List.cons_append]
    by_cases hc : c = sep
    · rw [hc, splitOn_cons_self, splitOn_cons_self, ih, List.cons_append]
    · obtain ⟨piece, pieces, hpieces⟩ := List.exists_cons_of_ne_nil (splitOn_ne_nil sep cs)
      rw [hpieces, List.cons_append] at ih
      rw [splitOn_cons_of_ne hc ih, splitOn_cons_of_ne hc hpieces, List.cons_append]

theorem splitOn_of_not_mem {sep : Char} {s : Text} (h : sep ∉ s) : splitOn sep s = [s] := by
  induction s with
  | nil => rfl
  | cons c cs ih =>
    rw [List.mem_cons, not_or] at h
    exact splitOn_cons_of_ne (Ne.symm h.1) (ih h.2)

/-- The first piece is the whole text, or the separator is behind it. -/
theorem exists_splitOn_eq (sep : Char) (s : Text) :
    ∃ piece pieces, splitOn sep s = piece :: pieces ∧
      (s = piece ∨ ∃ rest, s = piece ++ sep :: rest) := by
  obtain ⟨piece, pieces, hsplit⟩ := List.exists_cons_of_ne_nil (splitOn_ne_nil sep s)
  refine ⟨piece, pieces, hsplit, ?_⟩
  have hjoin := joinWith_splitOn sep s
  rw [hsplit] at hjoin
  cases pieces with
  | nil => exact .inl (by simpa using hjoin.symm)
  | cons next rest =>
    rw [joinWith_cons _ _ (by simp)] at hjoin
    exact .inr ⟨joinWith [sep] (next :: rest), by simpa using hjoin.symm⟩

theorem mem_joinWith_cons_cons {c : Char} {sep : Text} (h : c ∈ sep) (s t : Text)
    (pieces : List Text) : c ∈ joinWith sep (s :: t :: pieces) := by
  rw [joinWith_cons sep s (List.cons_ne_nil t pieces)]
  exact List.mem_append_left _ (List.mem_append_right s h)

/-! ## Trimming -/

theorem trimStart_of_head {s : Text} (h : ∀ c, s.head? = some c → isBlank c = false) :
    trimStart s = s := by
  cases s with
  | nil => rfl
  | cons c cs =>
    have hc : ¬isBlank c = true := by
      rw [h c rfl]
      exact Bool.false_ne_true
    exact List.dropWhile_cons_of_neg hc

/-- A text without blanks at its ends stays as it is. -/
theorem trim_of_ends {s : Text} (hhead : ∀ c, s.head? = some c → isBlank c = false)
    (hlast : ∀ c, s.getLast? = some c → isBlank c = false) : trim s = s := by
  have hend : trimStart s.reverse = s.reverse := by
    apply trimStart_of_head
    intro c hc
    rw [List.head?_reverse] at hc
    exact hlast c hc
  rw [trim, trimStart_of_head hhead, trimEnd, hend, List.reverse_reverse]

theorem trimEnd_append {trail : Text} (h : ∀ c ∈ trail, isBlank c = true) (s : Text) :
    trimEnd (s ++ trail) = trimEnd s := by
  have hreverse : ∀ c ∈ trail.reverse, isBlank c = true :=
    fun c hc => h c (List.mem_reverse.mp hc)
  rw [trimEnd, List.reverse_append, trimStart, List.dropWhile_append_of_pos hreverse]
  rfl

/-- **Blanks around a text do not matter to what trimming leaves.** -/
theorem trim_padded {lead trail : Text} (hlead : ∀ c ∈ lead, isBlank c = true)
    (htrail : ∀ c ∈ trail, isBlank c = true) (s : Text) : trim (lead ++ s ++ trail) = trim s := by
  have hstart : trimStart (lead ++ s ++ trail) = trimStart (s ++ trail) := by
    rw [List.append_assoc]
    exact List.dropWhile_append_of_pos hlead
  rw [trim, hstart, trim, trimStart, trimStart, List.dropWhile_append]
  by_cases hs : (s.dropWhile isBlank).isEmpty = true
  · -- of blanks alone nothing is left on either side
    have htrail' : (trail ++ []).dropWhile isBlank = [] := List.dropWhile_append_of_pos htrail
    rw [List.append_nil] at htrail'
    rw [if_pos hs, htrail', List.isEmpty_iff.mp hs]
  · rw [if_neg hs, trimEnd_append htrail]

theorem exists_trimStart_append (s : Text) :
    ∃ lead, (∀ c ∈ lead, isBlank c = true) ∧ s = lead ++ trimStart s :=
  ⟨s.takeWhile isBlank, List.all_eq_true.mp List.all_takeWhile,
    (List.takeWhile_append_dropWhile (p := isBlank)).symm⟩

theorem exists_trimEnd_append (s : Text) :
    ∃ trail, (∀ c ∈ trail, isBlank c = true) ∧ s = trimEnd s ++ trail := by
  obtain ⟨lead, hlead, hs⟩ := exists_trimStart_append s.reverse
  refine ⟨lead.reverse, fun c hc => hlead c (List.mem_reverse.mp hc), ?_⟩
  rw [trimEnd, ← List.reverse_append, ← hs, List.reverse_reverse]

/-- Only blanks at the ends are trimmed. -/
theorem exists_trim_append (s : Text) : ∃ lead trail, s = lead ++ trim s ++ trail := by
  obtain ⟨lead, -, hlead⟩ := exists_trimStart_append s
  obtain ⟨trail, -, htrail⟩ := exists_trimEnd_append (trimStart s)
  refine ⟨lead, trail, ?_⟩
  rw [trim, List.append_assoc, ← htrail]
  exact hlead

theorem mem_of_mem_trim {s : Text} {c : Char} (h : c ∈ trim s) : c ∈ s := by
  obtain ⟨lead, trail, hs⟩ := exists_trim_append s
  have hmem : c ∈ lead ++ trim s ++ trail := by simp [h]
  rw [← hs] at hmem
  exact hmem

theorem isBlank_of_head?_trimStart {s : Text} {c : Char} (h : (trimStart s).head? = some c) :
    isBlank c = false := by
  have hnot := List.head?_dropWhile_not isBlank s
  rw [← trimStart, h] at hnot
  simpa using hnot

theorem isBlank_of_getLast?_trimEnd {s : Text} {c : Char} (h : (trimEnd s).getLast? = some c) :
    isBlank c = false := by
  rw [trimEnd, List.getLast?_reverse] at h
  exact isBlank_of_head?_trimStart h

theorem head?_mono {s t : Text} (h : s <+: t) {c : Char} (hc : s.head? = some c) :
    t.head? = some c := by
  obtain ⟨u, rfl⟩ := h
  rw [List.head?_append, hc]
  rfl

theorem prefix_trimEnd (s : Text) : trimEnd s <+: s := by
  obtain ⟨trail, -, hs⟩ := exists_trimEnd_append s
  exact ⟨trail, hs.symm⟩

/-- **A trimmed text has no blank at its start.** -/
theorem isBlank_of_head?_trim {s : Text} {c : Char} (h : (trim s).head? = some c) :
    isBlank c = false :=
  isBlank_of_head?_trimStart (head?_mono (prefix_trimEnd _) h)

theorem trim_trim (s : Text) : trim (trim s) = trim s :=
  trim_of_ends (fun _ h => isBlank_of_head?_trim h) fun _ h => isBlank_of_getLast?_trimEnd h

/-- What does not end in a blank starts a text just if it starts the text without the blanks at its
end. -/
theorem prefix_trimEnd_iff {p : Text} (hlast : ∀ c, p.getLast? = some c → isBlank c = false)
    (s : Text) : p <+: trimEnd s ↔ p <+: s := by
  constructor
  · intro h
    exact h.trans (prefix_trimEnd s)
  · intro h
    obtain ⟨trail, htrail, hs⟩ := exists_trimEnd_append s
    rcases List.prefix_or_prefix_of_prefix h (prefix_trimEnd s) with hp | ⟨u, rfl⟩
    · exact hp
    · -- what reaches over the end would end in one of the blanks there
      have hu : u <+: trail := by
        rw [← List.prefix_append_right_inj (trimEnd s), ← hs]
        exact h
      rcases List.eq_nil_or_concat u with rfl | ⟨u, c, rfl⟩
      · simp
      · have hc := hlast c (by simp)
        rw [htrail c (hu.subset (by simp))] at hc
        cases hc

end Switchboard.Text
