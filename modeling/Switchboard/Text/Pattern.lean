import Switchboard.Text.Basic

/-!
# Patterns and replacement

A pattern says what it matches at the start of a text.  A text is cut, from left to right, into
matches and the single characters between them, and replacement works on these pieces.

* `Text.pieces`: the cut; `pieces_append_of_some`: after a match the search goes on behind it.
* `Text.replaceAll`: every match replaced by a text that may depend on it.
* `Text.removeFirst`: a fixed text removed where it first occurs.
-/

namespace Switchboard

/-- What is matched at the start of a text, if anything is. -/
abbrev Pattern := Text → Option Text

/-- A part of a text that was searched for a pattern. -/
inductive Piece where
  | plain (c : Char)
  | hit (w : Text)
  deriving DecidableEq

namespace Text

/-- Matches a fixed text. -/
def literal (w : Text) : Pattern := fun s => if w.isPrefixOf s then some w else none

/-! ## Cutting at matches -/

/-- The pieces of a text whose first `skip` characters belong to an earlier match. -/
def piecesAfter (p : Pattern) : Nat → Text → List Piece
  | _, [] => []
  | skip + 1, _ :: cs => piecesAfter p skip cs
  | 0, c :: cs =>
    match p (c :: cs) with
    | some w => .hit w :: piecesAfter p (w.length - 1) cs
    | none => .plain c :: piecesAfter p 0 cs

/-- The matches of the pattern, found from left to right, and the characters between them. -/
def pieces (p : Pattern) (s : Text) : List Piece := piecesAfter p 0 s

theorem piecesAfter_eq_pieces_drop (p : Pattern) (n : Nat) (s : Text) :
    piecesAfter p n s = pieces p (s.drop n) := by
  induction s generalizing n with
  | nil => cases n <;> rfl
  | cons c cs ih =>
    cases n with
    | zero => rfl
    | succ n => simpa [piecesAfter] using ih n

@[simp] theorem pieces_nil (p : Pattern) : pieces p [] = [] := rfl

theorem pieces_cons_of_none {p : Pattern} {c : Char} {cs : Text} (h : p (c :: cs) = none) :
    pieces p (c :: cs) = .plain c :: pieces p cs := by
  simp [pieces, piecesAfter, h]

/-- A match that is not empty is one piece, and the search goes on behind it. -/
theorem pieces_append_of_some {p : Pattern} {w rest : Text} (hw : w ≠ [])
    (h : p (w ++ rest) = some w) : pieces p (w ++ rest) = .hit w :: pieces p rest := by
  obtain ⟨c, cs, rfl⟩ := List.exists_cons_of_ne_nil hw
  rw [List.cons_append] at h ⊢
  simp only [pieces, piecesAfter, h]
  rw [piecesAfter_eq_pieces_drop]
  simp [pieces]

/-! ## Replacing -/

/-- The text with every match `w` replaced by `f w`. -/
def replaceAll (p : Pattern) (f : Text → Text) (s : Text) : Text :=
  (pieces p s).flatMap fun
    | .plain c => [c]
    | .hit w => f w

/-- The text without the matches of the pattern. -/
def removeAll (p : Pattern) (s : Text) : Text := replaceAll p (fun _ => []) s

/-- The text with every match `w` replaced by `f w`, or the failure of the first match that has
none. -/
def replaceAllM {ε : Type} (p : Pattern) (f : Text → Except ε Text) (s : Text) : Except ε Text :=
  List.flatten <$> (pieces p s).mapM fun
    | .plain c => .ok [c]
    | .hit w => f w

/-- The text without the first occurrence of `w`. -/
def removeFirst (w : Text) : Text → Text
  | [] => []
  | c :: cs =>
    match dropPrefix? w (c :: cs) with
    | some rest => rest
    | none => c :: removeFirst w cs

/-- Whether `w` occurs somewhere in the text. -/
def occursIn (w : Text) : Text → Bool
  | [] => w.isEmpty
  | c :: cs => w.isPrefixOf (c :: cs) || occursIn w cs

end Text

end Switchboard
