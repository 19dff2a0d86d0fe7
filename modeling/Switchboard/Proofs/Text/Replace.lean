import Switchboard.Proofs.Text.Search

/-!
# Replacing

A text is read for a pattern from left to right: at each place either nothing matches and one
character is kept, or a match is replaced and the reading goes on behind it.

* `Pattern.Proper`: what is matched is not empty, and the text starts with it.
* `Pattern.Proper.induction`: induction along such a reading.
* `replaceAll_cons_of_none`, `replaceAll_append_of_some`: the two ways of a replacement to go on.
* `mem_replaceAll`, `mem_of_replaceAllM`: where the characters of the result come from.
-/

namespace Switchboard

/-- What the pattern matches is not empty, and the text starts with it. -/
def Pattern.Proper (p : Pattern) : Prop := ∀ s w, p s = some w → w ≠ [] ∧ w <+: s

/-- Induction along the reading of a text for a pattern. -/
theorem Pattern.Proper.induction {p : Pattern} (hp : p.Proper) {motive : Text → Prop}
    (nil : motive [])
    (plain : ∀ c cs, p (c :: cs) = none → motive cs → motive (c :: cs))
    (hit : ∀ w rest, w ≠ [] → p (w ++ rest) = some w → motive rest → motive (w ++ rest))
    (s : Text) : motive s := by
  induction hn : s.length using Nat.strongRecOn generalizing s with
  | ind n ih =>
    cases s with
    | nil => exact nil
    | cons c cs =>
      cases hmatch : p (c :: cs) with
      | none => exact plain c cs hmatch (ih cs.length (by simp at hn; omega) cs rfl)
      | some w =>
        obtain ⟨hw, rest, hrest⟩ := hp _ _ hmatch
        have hpos : 0 < w.length := List.length_pos_iff.mpr hw
        rw [← hrest] at hmatch hn ⊢
        exact hit w rest hw hmatch (ih rest.length (by simp at hn; omega) rest rfl)

namespace Text

variable {p : Pattern} {f : Text → Text}

/-! ## Steps -/

@[simp] theorem replaceAll_nil (p : Pattern) (f : Text → Text) : replaceAll p f [] = [] := rfl

theorem replaceAll_cons_of_none {c : Char} {cs : Text} (h : p (c :: cs) = none) :
    replaceAll p f (c :: cs) = c :: replaceAll p f cs := by
  rw [replaceAll, pieces_cons_of_none h, List.flatMap_cons]
  rfl

theorem replaceAll_append_of_some {w rest : Text} (hw : w ≠ []) (h : p (w ++ rest) = some w) :
    replaceAll p f (w ++ rest) = f w ++ replaceAll p f rest := by
  rw [replaceAll, pieces_append_of_some hw h, List.flatMap_cons]
  rfl

theorem proper_literal {w : Text} (hw : w ≠ []) : Pattern.Proper (literal w) := by
  intro s v h
  rw [literal] at h
  split at h
  · next hstart =>
    cases h
    exact ⟨hw, List.isPrefixOf_iff_prefix.mp hstart⟩
  · cases h

/-! ## Characters -/

theorem mem_of_plain_mem_piecesAfter {c : Char} {s : Text} {skip : Nat}
    (h : .plain c ∈ piecesAfter p skip s) : c ∈ s := by
  induction s generalizing skip with
  | nil => cases skip <;> simp [piecesAfter] at h
  | cons d ds ih =>
    cases skip with
    | succ n => exact List.mem_cons_of_mem d (ih h)
    | zero =>
      rw [piecesAfter] at h
      split at h
      · rcases List.mem_cons.mp h with h | h
        · cases h
        · exact List.mem_cons_of_mem d (ih h)
      · rcases List.mem_cons.mp h with h | h
        · cases h
          exact List.mem_cons_self
        · exact List.mem_cons_of_mem d (ih h)

/-- **A character of the result is one of the text or of a replacement.** -/
theorem mem_replaceAll {c : Char} {s : Text} (h : c ∈ replaceAll p f s) :
    c ∈ s ∨ ∃ w, c ∈ f w := by
  rw [replaceAll, List.mem_flatMap] at h
  obtain ⟨piece, hpiece, hc⟩ := h
  cases piece with
  | plain d =>
    rw [List.mem_singleton.mp hc]
    exact .inl (mem_of_plain_mem_piecesAfter hpiece)
  | hit w => exact .inr ⟨w, hc⟩

theorem mem_removeAll {c : Char} {s : Text} (h : c ∈ removeAll p s) : c ∈ s := by
  rcases mem_replaceAll h with hc | ⟨-, hc⟩
  · exact hc
  · cases hc

theorem mem_of_flatten_mapM {α ε : Type} {g : α → Except ε Text} {xs : List α} {t : Text}
    (h : List.flatten <$> xs.mapM g = .ok t) {c : Char} (hc : c ∈ t) :
    ∃ x ∈ xs, ∃ v, g x = .ok v ∧ c ∈ v := by
  induction xs generalizing t with
  | nil => cases h; cases hc
  | cons x xs ih =>
    rw [List.mapM_cons] at h
    cases hx : g x with
    | error e => rw [hx] at h; cases h
    | ok v =>
      cases hxs : xs.mapM g with
      | error e => rw [hx, hxs] at h; cases h
      | ok vs =>
        rw [hx, hxs] at h
        cases h
        rw [List.flatten_cons, List.mem_append] at hc
        rcases hc with hc | hc
        · exact ⟨x, List.mem_cons_self, v, hx, hc⟩
        · obtain ⟨y, hy, hfound⟩ := ih (by rw [hxs]; rfl) hc
          exact ⟨y, List.mem_cons_of_mem x hy, hfound⟩

theorem mem_of_replaceAllM {ε : Type} {g : Text → Except ε Text} {s t : Text}
    (h : replaceAllM p g s = .ok t) {c : Char} (hc : c ∈ t) :
    c ∈ s ∨ ∃ w v, g w = .ok v ∧ c ∈ v := by
  obtain ⟨piece, hpiece, v, hv, hmem⟩ := mem_of_flatten_mapM h hc
  cases piece with
  | plain d =>
    cases hv
    rw [List.mem_singleton.mp hmem]
    exact .inl (mem_of_plain_mem_piecesAfter hpiece)
  | hit w => exact .inr ⟨w, v, hv, hmem⟩

theorem mem_removeFirst {w s : Text} {c : Char} (h : c ∈ removeFirst w s) : c ∈ s := by
  induction s with
  | nil => exact h
  | cons d ds ih =>
    rw [removeFirst] at h
    split at h
    · next rest hrest =>
      rw [dropPrefix?_eq_some_iff.mp hrest]
      exact List.mem_append_right w h
    · rcases List.mem_cons.mp h with rfl | h
      · exact List.mem_cons_self
      · exact List.mem_cons_of_mem d (ih h)

end Text

end Switchboard
