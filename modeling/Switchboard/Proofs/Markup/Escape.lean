import Switchboard.Markup.Entity
import Switchboard.Proofs.Text.Search

/-!
# Escaped texts are read back

Entities are read one kind after another over the whole text.  In a text in which every character is
written as an entity or as itself, and the ampersand only as an entity, a kind of entity is found
where a character is written so, and nowhere else.  So each kind can be read character by character,
and what one kind leaves is written in the same manner.

* `IsEntity`: written forms from an ampersand to the next semicolon.
* `replaceAll_flatMap`: reading one kind of entity is reading it character by character.
* `unescape_escape`: escaping is undone exactly.
-/

namespace Switchboard.Markup

open Text

/-- A written form: an ampersand, and all up to the next semicolon. -/
def IsEntity (w : Text) : Prop := ∃ name, w = '&' :: (name ++ [';']) ∧ '&' ∉ name ∧ ';' ∉ name

/-- How one character is written: as an entity, or as a character other than the ampersand. -/
def IsWritten (w : Text) : Prop := IsEntity w ∨ ∃ c, w = [c] ∧ c ≠ '&'

theorem IsEntity.ne_nil {w : Text} (h : IsEntity w) : w ≠ [] := by
  obtain ⟨name, rfl, -⟩ := h
  simp

theorem isEntity_of_mem {e : Text × Char} (h : e ∈ entities) : IsEntity e.1 := by
  simp only [entities, List.mem_cons, List.not_mem_nil, or_false] at h
  obtain rfl | rfl | rfl | rfl | rfl | rfl := h
  · exact ⟨"lt".toList, by decide⟩
  · exact ⟨"gt".toList, by decide⟩
  · exact ⟨"quot".toList, by decide⟩
  · exact ⟨"#39".toList, by decide⟩
  · exact ⟨"nbsp".toList, by decide⟩
  · exact ⟨"amp".toList, by decide⟩

/-! ## Finding one kind of entity -/

theorem literal_of_ne {w : Text} (hw : IsEntity w) {c : Char} (hc : c ≠ '&') (t : Text) :
    literal w (c :: t) = none := by
  obtain ⟨name, rfl, -, -⟩ := hw
  simp [literal, List.isPrefixOf_cons_cons, hc.symm]

/-- An entity is found where it is written, and no other kind is found there. -/
theorem pieces_literal_append {w u : Text} (hw : IsEntity w) (hu : IsWritten u) (rest : Text) :
    pieces (literal w) (u ++ rest) =
      (if u = w then [.hit w] else u.map .plain) ++ pieces (literal w) rest := by
  obtain ⟨name', rfl, hamp, hsemicolon⟩ | ⟨c, rfl, hc⟩ := hu
  · by_cases heq : '&' :: (name' ++ [';']) = w
    · subst heq
      have hfound : literal ('&' :: (name' ++ [';'])) ('&' :: (name' ++ [';']) ++ rest) =
          some ('&' :: (name' ++ [';'])) := by
        simp only [literal, List.isPrefixOf_iff_prefix, List.prefix_append, if_true]
      rw [pieces_append_of_some (List.cons_ne_nil _ _) hfound, if_pos rfl]
      rfl
    · -- the names end at the same delimiter, so one kind is no start of another
      have hnone : literal w ('&' :: (name' ++ ';' :: rest)) = none := by
        obtain ⟨name, rfl, -, hsemicolon'⟩ := hw
        have hne : ¬name = name' := fun h => heq (h ▸ rfl)
        have hdelimited := isPrefixOf_delimited hsemicolon' hsemicolon [] rest
        simp [literal, hdelimited, hne]
      have htail : ∀ c ∈ name' ++ [';'], ∀ t, literal w (c :: t) = none := by
        intro c hc t
        refine literal_of_ne hw ?_ t
        rintro rfl
        simp [hamp] at hc
      have happend : name' ++ ';' :: rest = name' ++ [';'] ++ rest := List.append_cons _ _ _
      rw [if_neg heq, List.cons_append, ← happend, pieces_cons_of_none hnone, happend,
        pieces_append_of_inert htail]
      rfl
  · have hne : [c] ≠ w := by
      obtain ⟨name, rfl, -, -⟩ := hw
      simp
    rw [if_neg hne, List.singleton_append, pieces_cons_of_none (literal_of_ne hw hc rest)]
    rfl

/-- **Reading one kind of entity is reading it character by character.** -/
theorem replaceAll_flatMap {w : Text} (hw : IsEntity w) {code : Char → Text}
    (hcode : ∀ d, IsWritten (code d)) (c : Char) (s : Text) :
    replaceAll (literal w) (fun _ => [c]) (s.flatMap code) =
      s.flatMap fun d => if code d = w then [c] else code d := by
  induction s with
  | nil => rfl
  | cons d ds ih =>
    rw [replaceAll] at ih
    rw [List.flatMap_cons, List.flatMap_cons, replaceAll, pieces_literal_append hw (hcode d),
      List.flatMap_append, ih]
    congr 1
    split
    · rfl
    · rw [List.flatMap_map]
      exact List.flatMap_singleton' (code d)

/-! ## Reading all kinds -/

/-- What is written, with one kind of entity read. -/
def readEntity (w : Text) (e : Text × Char) : Text := if w = e.1 then [e.2] else w

/-- Entities that do not stand for the ampersand can be read character by character one kind after
another. -/
theorem foldl_replaceAll_flatMap (es : List (Text × Char))
    (hes : ∀ e ∈ es, IsEntity e.1 ∧ e.2 ≠ '&') {code : Char → Text}
    (hcode : ∀ d, IsWritten (code d)) (s : Text) :
    es.foldl (fun s e => replaceAll (literal e.1) (fun _ => [e.2]) s) (s.flatMap code) =
        s.flatMap (fun d => es.foldl readEntity (code d)) ∧
      ∀ d, IsWritten (es.foldl readEntity (code d)) := by
  induction es generalizing code with
  | nil => exact ⟨rfl, hcode⟩
  | cons e es ih =>
    obtain ⟨hentity, hne⟩ := hes e List.mem_cons_self
    have hread : ∀ d, IsWritten (readEntity (code d) e) := by
      intro d
      rw [readEntity]
      split
      · exact .inr ⟨e.2, rfl, hne⟩
      · exact hcode d
    rw [List.foldl_cons, replaceAll_flatMap hentity hcode]
    exact ih (fun e' he' => hes e' (List.mem_cons_of_mem e he')) hread

theorem isWritten_escapeChar (d : Char) : IsWritten (escapeChar d) := by
  unfold escapeChar
  split
  · exact .inl ⟨"amp".toList, by decide⟩
  · exact .inl ⟨"lt".toList, by decide⟩
  · exact .inl ⟨"gt".toList, by decide⟩
  · exact .inl ⟨"quot".toList, by decide⟩
  · exact .inl ⟨"#39".toList, by decide⟩
  · next hamp _ _ _ _ => exact .inr ⟨d, rfl, hamp⟩

/-- A character is read back from how it is written. -/
theorem foldl_readEntity_escapeChar (d : Char) : entities.foldl readEntity (escapeChar d) = [d] := by
  unfold escapeChar
  split
  iterate 5 decide
  · have hlong : ∀ e ∈ entities, 1 < e.1.length := by decide
    have hkeeps : ∀ es : List (Text × Char), (∀ e ∈ es, 1 < e.1.length) →
        es.foldl readEntity [d] = [d] := by
      intro es
      induction es with
      | nil => intro _; rfl
      | cons e es ih =>
        intro hes
        have hne : [d] ≠ e.1 := by
          intro h
          have hlength := hes e List.mem_cons_self
          rw [← h] at hlength
          exact Nat.lt_irrefl 1 hlength
        rw [List.foldl_cons, readEntity, if_neg hne]
        exact ih fun e' he' => hes e' (List.mem_cons_of_mem e he')
    exact hkeeps entities hlong

/-- **Escaping is undone exactly.** -/
theorem unescape_escape (s : Text) : unescape (escape s) = s := by
  -- the ampersand is read last, when no other entity is left to be uncovered by it
  obtain ⟨hfirst, hwritten⟩ := foldl_replaceAll_flatMap entities.dropLast
    (fun e he => ⟨isEntity_of_mem (List.dropLast_subset _ he), by revert e; decide⟩)
    isWritten_escapeChar s
  have hall : entities = entities.dropLast ++ [("&amp;".toList, '&')] := rfl
  rw [unescape, escape, hall, List.foldl_append, hfirst, List.foldl_cons, List.foldl_nil,
    replaceAll_flatMap (isEntity_of_mem (by decide)) hwritten]
  have hchar : ∀ d, readEntity (entities.dropLast.foldl readEntity (escapeChar d))
      ("&amp;".toList, '&') = [d] := by
    intro d
    have hback := foldl_readEntity_escapeChar d
    rw [hall, List.foldl_append] at hback
    exact hback
  exact (congrArg (s.flatMap ·) (funext hchar)).trans (List.flatMap_singleton' s)

end Switchboard.Markup
