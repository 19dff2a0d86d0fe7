import Switchboard.Text.Pattern

/-!
# Searching a text

Where a pattern is found in a text that is put together from parts, and where a fixed text is.

* `pieces_append_of_inert`: the characters of a part that nothing matches at stay as they are.
* `isPrefixOf_delimited`: two texts up to a delimiter agree only as a whole.
* `occursIn_delimited`: where a text with a delimiter may occur.
* `occursIn_append_cons`: a text without the delimiter occurs on one side of it.
* `removeFirst_eq_self`: what does not occur is not removed.
-/

namespace Switchboard.Text

/-! ## Parts that nothing matches at -/

/-- If nothing matches at the characters of a part, whatever follows them, they stay as they are. -/
theorem pieces_append_of_inert {p : Pattern} {s : Text} (h : ∀ c ∈ s, ∀ t, p (c :: t) = none)
    (rest : Text) : pieces p (s ++ rest) = s.map .plain ++ pieces p rest := by
  induction s with
  | nil => rfl
  | cons c cs ih =>
    rw [List.cons_append, pieces_cons_of_none (h c List.mem_cons_self _),
      ih fun d hd => h d (List.mem_cons_of_mem c hd)]
    rfl

/-- A text is removed where it is first found as a piece, and not at all if it is none. -/
theorem removeFirst_eq_self {w s : Text} (h : ∀ v, .hit v ∉ pieces (literal w) s) :
    removeFirst w s = s := by
  induction s with
  | nil => rfl
  | cons c cs ih =>
    cases hliteral : literal w (c :: cs) with
    | some v =>
      refine absurd ?_ (h v)
      simp [pieces, piecesAfter, hliteral]
    | none =>
      have hnot : w.isPrefixOf (c :: cs) = false := by
        rw [literal, ite_eq_right_iff] at hliteral
        exact Bool.eq_false_iff.mpr fun hmatch => Option.some_ne_none w (hliteral hmatch)
      rw [pieces_cons_of_none hliteral] at h
      rw [removeFirst, dropPrefix?, hnot]
      exact congrArg (c :: ·) (ih fun v hv => h v (List.mem_cons_of_mem _ hv))

/-! ## Delimiters -/

/-- Two texts up to a delimiter agree only as a whole. -/
theorem isPrefixOf_delimited {d : Char} {u v : Text} (hu : d ∉ u) (hv : d ∉ v) (t rest : Text) :
    (u ++ d :: t).isPrefixOf (v ++ d :: rest) = (u == v && t.isPrefixOf rest) := by
  induction u generalizing v with
  | nil =>
    cases v with
    | nil => simp
    | cons c cs =>
      have hc : d ≠ c := fun h => hv (h ▸ List.mem_cons_self)
      simp [List.isPrefixOf_cons_cons, hc]
  | cons b bs ih =>
    have hb : b ≠ d := fun h => hu (h ▸ List.mem_cons_self)
    cases v with
    | nil => simp [List.isPrefixOf_cons_cons, hb]
    | cons c cs =>
      have htail := ih (fun h => hu (List.mem_cons_of_mem b h))
        (v := cs) (fun h => hv (List.mem_cons_of_mem c h))
      simp only [List.cons_append, List.isPrefixOf_cons_cons, htail, List.cons_beq_cons,
        Bool.and_assoc]

/-- A text that goes on behind a delimiter occurs where what is before the delimiter ends a part, or
behind that part. -/
theorem occursIn_delimited {d : Char} {u v : Text} (hne : u ≠ []) (hu : d ∉ u) (hv : d ∉ v)
    (t rest : Text) :
    occursIn (u ++ d :: t) (v ++ d :: rest) =
      (u.isSuffixOf v && t.isPrefixOf rest || occursIn (u ++ d :: t) rest) := by
  induction v with
  | nil =>
    obtain ⟨b, bs, rfl⟩ := List.exists_cons_of_ne_nil hne
    have hb : b ≠ d := fun h => hu (h ▸ List.mem_cons_self)
    have hnot : ((b :: bs).isSuffixOf ([] : Text)) = false := by
      simp [List.isSuffixOf]
    simp [occursIn, List.isPrefixOf_cons_cons, hb, hnot]
  | cons c cs ih =>
    have hprefix := isPrefixOf_delimited hu hv t rest
    rw [List.cons_append] at hprefix ⊢
    rw [occursIn, hprefix, ih fun h => hv (List.mem_cons_of_mem c h)]
    have hsuffix : u.isSuffixOf (c :: cs) = (u == c :: cs || u.isSuffixOf cs) := by
      rw [Bool.eq_iff_iff]
      simp [List.suffix_cons_iff]
    rw [hsuffix, Bool.and_or_distrib_right, Bool.or_assoc]

/-- What has no delimiter does not reach over one. -/
theorem isPrefixOf_append_cons {d : Char} {w : Text} (hw : d ∉ w) (s t : Text) :
    w.isPrefixOf (s ++ d :: t) = w.isPrefixOf s := by
  induction w generalizing s with
  | nil => simp
  | cons b bs ih =>
    have hb : b ≠ d := fun h => hw (h ▸ List.mem_cons_self)
    cases s with
    | nil => simp [List.isPrefixOf_cons_cons, hb]
    | cons c cs =>
      rw [List.cons_append, List.isPrefixOf_cons_cons, List.isPrefixOf_cons_cons,
        ih fun h => hw (List.mem_cons_of_mem b h)]

theorem occursIn_append_cons {d : Char} {w : Text} (hw : d ∉ w) (s t : Text) :
    occursIn w (s ++ d :: t) = (occursIn w s || occursIn w t) := by
  induction s with
  | nil =>
    have hstart := isPrefixOf_append_cons hw [] t
    have hnil : w.isPrefixOf [] = w.isEmpty := by cases w <;> rfl
    rw [List.nil_append, hnil] at hstart
    rw [List.nil_append, occursIn.eq_2, hstart, occursIn.eq_1]
  | cons c cs ih =>
    have hstart := isPrefixOf_append_cons hw (c :: cs) t
    rw [List.cons_append] at hstart ⊢
    rw [occursIn, hstart, ih, occursIn, Bool.or_assoc]

theorem occursIn_of_append {u v s : Text} (h : occursIn (u ++ v) s = true) : occursIn u s = true := by
  induction s with
  | nil =>
    rw [occursIn, List.isEmpty_iff, List.append_eq_nil_iff] at h
    rw [h.1]
    rfl
  | cons c cs ih =>
    rw [occursIn, Bool.or_eq_true] at h ⊢
    obtain hstart | hlater := h
    · rw [List.isPrefixOf_iff_prefix] at hstart ⊢
      exact .inl ((List.prefix_append u v).trans hstart)
    · exact .inr (ih hlater)

theorem mem_of_occursIn {w s : Text} (h : occursIn w s = true) {c : Char} (hc : c ∈ w) : c ∈ s := by
  induction s with
  | nil =>
    rw [occursIn, List.isEmpty_iff] at h
    rw [h] at hc
    exact hc
  | cons a as ih =>
    rw [occursIn, Bool.or_eq_true] at h
    obtain hprefix | hlater := h
    · exact (List.isPrefixOf_iff_prefix.mp hprefix).subset hc
    · exact List.mem_cons_of_mem a (ih hlater)

end Switchboard.Text
