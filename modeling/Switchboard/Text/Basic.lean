/-!
# Text

Text is a list of Unicode scalar values.  This module has the few operations on it that
commands and pipes are made of.

* `Text.splitOn`, `Text.joinWith`: cutting at a character and putting back together
  (`joinWith_splitOn`, `length_splitOn`).
* `Text.dropPrefix?`: what follows a prefix (`dropPrefix?_eq_some_iff`).
* `Text.size8`: the length in UTF-8, which orders prefixes.
* `Text.dropBytes?`, `Text.takeBytes?`: cutting at an offset in UTF-8.
-/

namespace Switchboard

/-- A text: its Unicode scalar values in order. -/
abbrev Text := List Char

namespace Text

/-! ## Cutting and joining -/

/-- The pieces between the occurrences of `sep`; there is always at least one. -/
def splitOn (sep : Char) : Text → List Text
  | [] => [[]]
  | c :: cs =>
    if c = sep then [] :: splitOn sep cs
    else match splitOn sep cs with
      | [] => [[c]]
      | piece :: pieces => (c :: piece) :: pieces

/-- The texts one after another with `sep` between them. -/
def joinWith (sep : Text) (pieces : List Text) : Text := List.intercalate sep pieces

theorem splitOn_ne_nil (sep : Char) (s : Text) : splitOn sep s ≠ [] := by
  cases s with
  | nil => simp [splitOn]
  | cons c cs =>
    unfold splitOn
    split
    · simp
    · split <;> simp

@[simp] theorem joinWith_singleton (sep s : Text) : joinWith sep [s] = s := by
  simp [joinWith]

theorem joinWith_cons (sep s : Text) {pieces : List Text} (h : pieces ≠ []) :
    joinWith sep (s :: pieces) = s ++ sep ++ joinWith sep pieces := by
  obtain ⟨t, ts, rfl⟩ := List.exists_cons_of_ne_nil h
  simp [joinWith, List.intercalate, List.intersperse]

/-- Joining the pieces with the character they were cut at gives the text back. -/
theorem joinWith_splitOn (sep : Char) (s : Text) : joinWith [sep] (splitOn sep s) = s := by
  induction s with
  | nil => rfl
  | cons c cs ih =>
    unfold splitOn
    split
    · next h => rw [joinWith_cons _ _ (splitOn_ne_nil sep cs), ih, h]; rfl
    · split
      · next h => exact absurd h (splitOn_ne_nil sep cs)
      · next piece pieces h =>
        rw [h] at ih
        cases pieces with
        | nil => simp at ih ⊢; exact ih
        | cons p ps =>
          rw [joinWith_cons _ _ (by simp)] at ih ⊢
          simp only [List.cons_append, List.append_assoc] at ih ⊢
          rw [ih]

/-- No piece holds the character the text was cut at. -/
theorem not_mem_of_mem_splitOn {sep : Char} {s piece : Text} (h : piece ∈ splitOn sep s) :
    sep ∉ piece := by
  induction s generalizing piece with
  | nil => simp_all [splitOn]
  | cons c cs ih =>
    unfold splitOn at h
    split at h
    · rcases List.mem_cons.1 h with rfl | h
      · simp
      · exact ih h
    · next hc =>
      split at h
      · next hs => exact absurd hs (splitOn_ne_nil sep cs)
      · next p ps hs =>
        rcases List.mem_cons.1 h with rfl | h
        · simp only [List.mem_cons, not_or]
          exact ⟨fun e => hc e.symm, ih (by rw [hs]; simp)⟩
        · exact ih (by rw [hs]; simp [h])

/-- There is one piece more than there are cuts. -/
theorem length_splitOn (sep : Char) (s : Text) : (splitOn sep s).length = s.count sep + 1 := by
  induction s with
  | nil => rfl
  | cons c cs ih =>
    unfold splitOn
    split
    · next h => rw [List.length_cons, ih, h, List.count_cons_self]
    · next h =>
      rw [List.count_cons_of_ne h]
      split
      · next hs => exact absurd hs (splitOn_ne_nil sep cs)
      · next piece pieces hs => rw [hs] at ih; exact ih

/-! ## Prefixes -/

/-- What follows `p` in `s`, if `s` starts with `p`. -/
def dropPrefix? (p s : Text) : Option Text :=
  if p.isPrefixOf s then some (s.drop p.length) else none

theorem dropPrefix?_eq_some_iff {p s r : Text} : dropPrefix? p s = some r ↔ s = p ++ r := by
  unfold dropPrefix?
  constructor
  · intro h
    split at h
    · next hp =>
      obtain ⟨t, rfl⟩ := List.isPrefixOf_iff_prefix.1 hp
      simpa using h
    · simp at h
  · rintro rfl
    simp

/-- The number of bytes of the text in UTF-8. -/
def size8 : Text → Nat
  | [] => 0
  | c :: s => c.utf8Size + size8 s

@[simp] theorem size8_append (s t : Text) : size8 (s ++ t) = size8 s + size8 t := by
  induction s with
  | nil => simp [size8]
  | cons c s ih => simp [size8, ih, Nat.add_assoc]

/-! ## Offsets in UTF-8 -/

/-- The text behind its first `n` bytes, unless they end within a character or are too many. -/
def dropBytes? (n : Nat) : Text → Option Text
  | [] => if n = 0 then some [] else none
  | c :: s =>
    if n = 0 then some (c :: s) else if c.utf8Size ≤ n then dropBytes? (n - c.utf8Size) s else none

/-- The first `n` bytes of the text, unless they end within a character or are too many. -/
def takeBytes? (n : Nat) (s : Text) : Option Text :=
  (dropBytes? n s).map fun rest => s.take (s.length - rest.length)

end Text

end Switchboard
