import Switchboard.Proofs.Markup.TagFree

/-!
# Entities are read once

The entities are read one kind after another over the whole text.  What an earlier kind leaves is no
part of a later one, and no part of an entity starts another, so the kinds that have been read so far
could as well have been read together, in one reading from left to right.  Kind by kind this holds of
more of them, and at last of all.

* `replaceAll_decodeWith`: one more kind read behind is one more kind read at once.
* `unescape_eq_decodeOnce`: reading kind after kind is reading once.
* `ReadsOnce`: what a single reading makes of a text, as a relation.
* `reduce_readsOnce`: reducing a text without tags is reading its entities once.
-/

namespace Switchboard.Markup

open Text

/-! ## Kinds of entities -/

section Kinds

variable {es : List (Text × Char)} {s : Text} {e : Text × Char}

theorem kindAt?_eq_some (h : kindAt? es s = some e) : e ∈ es ∧ e.1 <+: s := by
  rw [kindAt?] at h
  have hstart := List.find?_some h
  exact ⟨List.mem_of_find?_eq_some h, List.isPrefixOf_iff_prefix.mp hstart⟩

theorem kindAt?_eq_none_iff : kindAt? es s = none ↔ ∀ e ∈ es, ¬e.1 <+: s := by
  simp [kindAt?]

theorem lookup_of_kindAt? (h : kindAt? es s = some e) : es.lookup e.1 = some e.2 := by
  induction es with
  | nil => cases h
  | cons a es ih =>
    obtain ⟨w, c⟩ := a
    rw [kindAt?, List.find?_cons] at h
    split at h
    · cases h
      exact List.lookup_cons_self
    · next hnot =>
      have hne : (e.1 == w) = false := by
        rw [beq_eq_false_iff_ne]
        rintro rfl
        rw [List.isPrefixOf_iff_prefix.mpr (kindAt?_eq_some h).2] at hnot
        cases hnot
      rw [List.lookup_cons, hne]
      exact ih h

theorem kindAt?_concat_of_some (h : kindAt? es s = some e) (e' : Text × Char) :
    kindAt? (es ++ [e']) s = some e := by
  rw [kindAt?] at h
  rw [kindAt?, List.find?_append, h]
  rfl

theorem kindAt?_concat_of_none (h : kindAt? es s = none) (hstart : e.1 <+: s) :
    kindAt? (es ++ [e]) s = some e := by
  rw [kindAt?] at h
  rw [kindAt?, List.find?_append, h]
  simpa using hstart

/-! ## One reading for some kinds -/

theorem decodeWith_nil (s : Text) : decodeWith [] s = s := by
  induction s with
  | nil => rfl
  | cons c cs ih =>
    rw [decodeWith, replaceAll_cons_of_none rfl]
    exact congrArg (c :: ·) ih

theorem decodeWith_of_some {rest : Text} (hne : e.1 ≠ []) (h : kindAt? es (e.1 ++ rest) = some e) :
    decodeWith es (e.1 ++ rest) = e.2 :: decodeWith es rest := by
  have hmatch : (kindAt? es (e.1 ++ rest)).map (·.1) = some e.1 := by rw [h]; rfl
  rw [decodeWith, replaceAll_append_of_some hne hmatch, charOf, lookup_of_kindAt? h]
  rfl

theorem decodeWith_of_none {c : Char} {cs : Text} (h : kindAt? es (c :: cs) = none) :
    decodeWith es (c :: cs) = c :: decodeWith es cs := by
  have hnone : (kindAt? es (c :: cs)).map (·.1) = none := by rw [h]; rfl
  rw [decodeWith, replaceAll_cons_of_none hnone]
  rfl

theorem kindAt?_cons_of_ne (hes : ∀ e ∈ es, IsEntity e.1) {c : Char} (hc : c ≠ '&') (s : Text) :
    kindAt? es (c :: s) = none := by
  rw [kindAt?_eq_none_iff]
  intro e he hstart
  obtain ⟨name, heq, -⟩ := hes e he
  rw [heq, List.cons_prefix_cons] at hstart
  exact hc hstart.1.symm

/-- Nothing is read where there is no ampersand. -/
theorem decodeWith_append (hes : ∀ e ∈ es, IsEntity e.1) {u : Text} (hu : '&' ∉ u) (s : Text) :
    decodeWith es (u ++ s) = u ++ decodeWith es s := by
  induction u with
  | nil => rfl
  | cons c cs ih =>
    rw [List.mem_cons, not_or] at hu
    rw [List.cons_append, decodeWith_of_none (kindAt?_cons_of_ne hes (Ne.symm hu.1) _), ih hu.2]
    rfl

/-- If nothing that can be read is a part of `u`, what starts with `u` when it is read did so
before. -/
theorem prefix_of_prefix_decodeWith (hne : ∀ e ∈ es, e.1 ≠ []) {u : Text}
    (hread : ∀ e ∈ es, e.2 ∉ u) (h : u <+: decodeWith es s) : u <+: s := by
  induction u generalizing s with
  | nil => exact List.nil_prefix
  | cons b bs ih =>
    cases hkind : kindAt? es s with
    | none =>
      cases s with
      | nil => simp [decodeWith] at h
      | cons c cs =>
        rw [decodeWith_of_none hkind, List.cons_prefix_cons] at h
        obtain ⟨rfl, h⟩ := h
        rw [List.cons_prefix_cons]
        exact ⟨rfl, ih (fun e he hmem => hread e he (List.mem_cons_of_mem b hmem)) h⟩
    | some e =>
      obtain ⟨he, rest, rfl⟩ := kindAt?_eq_some hkind
      rw [decodeWith_of_some (hne e he) hkind, List.cons_prefix_cons] at h
      exact absurd (h.1 ▸ List.mem_cons_self) (hread e he)

/-! ## One more kind -/

theorem IsEntity.length_pos {w : Text} (h : IsEntity w) : 0 < w.length :=
  List.length_pos_iff.mpr h.ne_nil

/-- An entity of which no kind is read stays. -/
theorem decodeWith_entity_append (hes : ∀ e ∈ es, IsEntity e.1) {w rest : Text} (hw : IsEntity w)
    (hnone : kindAt? es (w ++ rest) = none) :
    decodeWith es (w ++ rest) = w ++ decodeWith es rest := by
  obtain ⟨name, rfl, hamp, -⟩ := hw
  have htail : '&' ∉ name ++ [';'] := by simp [hamp]
  rw [List.cons_append] at hnone ⊢
  rw [decodeWith_of_none hnone, decodeWith_append hes htail]
  rfl

/-- **One more kind read behind is one more kind read at once**, if no character that stands for an
earlier kind is a part of its entity. -/
theorem replaceAll_decodeWith (hes : ∀ e ∈ es, IsEntity e.1) (hentity : IsEntity e.1)
    (hread : ∀ e' ∈ es, e'.2 ∉ e.1) (s : Text) :
    replaceAll (literal e.1) (fun _ => [e.2]) (decodeWith es s) = decodeWith (es ++ [e]) s := by
  induction hn : s.length using Nat.strongRecOn generalizing s with
  | ind n ih =>
    cases hkind : kindAt? es s with
    | some e' =>
      -- an earlier kind is read here, and its character starts no entity
      obtain ⟨he', rest, rfl⟩ := kindAt?_eq_some hkind
      have hpos := (hes e' he').length_pos
      have hshorter : rest.length < n := by
        rw [← hn, List.length_append]
        omega
      have hamp : e'.2 ≠ '&' := by
        intro heq
        obtain ⟨name, hname, -⟩ := hentity
        exact hread e' he' (by simp [hname, heq])
      rw [decodeWith_of_some (hes e' he').ne_nil hkind,
        decodeWith_of_some (hes e' he').ne_nil (kindAt?_concat_of_some hkind e),
        replaceAll_cons_of_none (literal_of_ne hentity hamp _), ih _ hshorter rest rfl]
    | none =>
      by_cases hstart : e.1 <+: s
      · -- the further kind is read here, by either reading
        obtain ⟨rest, rfl⟩ := hstart
        have hpos := hentity.length_pos
        have hshorter : rest.length < n := by
          rw [← hn, List.length_append]
          omega
        have hmatch : literal e.1 (e.1 ++ decodeWith es rest) = some e.1 := by simp [literal]
        rw [decodeWith_entity_append hes hentity hkind,
          replaceAll_append_of_some hentity.ne_nil hmatch, ih _ hshorter rest rfl,
          decodeWith_of_some hentity.ne_nil (kindAt?_concat_of_none hkind (List.prefix_append _ _))]
        rfl
      · -- nothing is read here, and what is read behind does not make an entity either
        cases s with
        | nil => rfl
        | cons b bs =>
          have hkind' : kindAt? (es ++ [e]) (b :: bs) = none := by
            rw [kindAt?_eq_none_iff] at hkind ⊢
            intro e' he'
            rcases List.mem_append.mp he' with he' | he'
            · exact hkind e' he'
            · rw [List.mem_singleton.mp he']
              exact hstart
          have hliteral : literal e.1 (b :: decodeWith es bs) = none := by
            rw [literal, if_neg]
            rw [List.isPrefixOf_iff_prefix, ← decodeWith_of_none hkind]
            exact fun h => hstart
              (prefix_of_prefix_decodeWith (fun e' he' => (hes e' he').ne_nil) hread h)
          rw [decodeWith_of_none hkind, decodeWith_of_none hkind', replaceAll_cons_of_none hliteral,
            ih bs.length (by rw [← hn]; simp) bs rfl]

/-- Kinds read one after another are read at once, if what stands for one is no part of a later
one. -/
theorem foldl_replaceAll_decodeWith (es later : List (Text × Char))
    (hentities : ∀ e ∈ es ++ later, IsEntity e.1)
    (hread : (es ++ later).Pairwise fun e e' => e.2 ∉ e'.1) (s : Text) :
    later.foldl (fun s e => replaceAll (literal e.1) (fun _ => [e.2]) s) (decodeWith es s) =
      decodeWith (es ++ later) s := by
  induction later generalizing es with
  | nil => simp
  | cons e later ih =>
    have hes : ∀ e' ∈ es, IsEntity e'.1 := fun e' he' => hentities e' (by simp [he'])
    have hbefore : ∀ e' ∈ es, e'.2 ∉ e.1 := by
      intro e' he'
      exact (List.pairwise_append.mp hread).2.2 e' he' e List.mem_cons_self
    have hsplit : es ++ e :: later = es ++ [e] ++ later := List.append_cons es e later
    rw [hsplit] at hentities hread ⊢
    rw [List.foldl_cons, replaceAll_decodeWith hes (hentities e (by simp)) hbefore]
    exact ih (es ++ [e]) hentities hread

end Kinds

/-- **Reading kind after kind is reading once.** -/
theorem unescape_eq_decodeOnce (s : Text) : unescape s = decodeOnce s := by
  have hread : entities.Pairwise fun e e' => e.2 ∉ e'.1 := by decide
  have hall := foldl_replaceAll_decodeWith [] entities (fun e he => isEntity_of_mem he) hread s
  rw [decodeWith_nil] at hall
  exact hall

/-! ## A single reading as a relation -/

/-- What is made of a text that is read once from left to right: an entity is its character, every
other character is itself, and nothing is read twice. -/
inductive ReadsOnce : Text → Text → Prop where
  | nil : ReadsOnce [] []
  | entity {w rest read : Text} {c : Char} : (w, c) ∈ entities → ReadsOnce rest read →
      ReadsOnce (w ++ rest) (c :: read)
  | char {c : Char} {rest read : Text} : (∀ e ∈ entities, ¬e.1 <+: c :: rest) →
      ReadsOnce rest read → ReadsOnce (c :: rest) (c :: read)

/-- No entity starts another, so a text starts with one at most. -/
theorem kindAt?_entities {w rest : Text} {c : Char} (h : (w, c) ∈ entities) :
    kindAt? entities (w ++ rest) = some (w, c) := by
  have hfree : ∀ e ∈ entities, ∀ e' ∈ entities, e.1 <+: e'.1 → e = e' := by decide
  cases hkind : kindAt? entities (w ++ rest) with
  | none => exact absurd (List.prefix_append w rest) (kindAt?_eq_none_iff.mp hkind _ h)
  | some e =>
    obtain ⟨he, hstart⟩ := kindAt?_eq_some hkind
    rcases List.prefix_or_prefix_of_prefix hstart (List.prefix_append w rest) with hle | hle
    · rw [hfree e he _ h hle]
    · rw [hfree _ h e he hle]

theorem decodeOnce_entity_append {w rest : Text} {c : Char} (h : (w, c) ∈ entities) :
    decodeOnce (w ++ rest) = c :: decodeOnce rest :=
  decodeWith_of_some (isEntity_of_mem h).ne_nil (kindAt?_entities h)

theorem decodeOnce_cons {c : Char} {cs : Text} (h : ∀ e ∈ entities, ¬e.1 <+: c :: cs) :
    decodeOnce (c :: cs) = c :: decodeOnce cs :=
  decodeWith_of_none (kindAt?_eq_none_iff.mpr h)

theorem readsOnce_iff {s d : Text} : ReadsOnce s d ↔ d = decodeOnce s := by
  constructor
  · intro h
    induction h with
    | nil => rfl
    | entity he _ ih => rw [ih, decodeOnce_entity_append he]
    | char hnone _ ih => rw [ih, decodeOnce_cons hnone]
  · rintro rfl
    induction hn : s.length using Nat.strongRecOn generalizing s with
    | ind n ih =>
      cases hkind : kindAt? entities s with
      | some e =>
        obtain ⟨he, rest, rfl⟩ := kindAt?_eq_some hkind
        have hpos := (isEntity_of_mem he).length_pos
        rw [decodeOnce_entity_append he]
        exact .entity he (ih rest.length (by rw [← hn, List.length_append]; omega) rfl)
      | none =>
        have hnone := kindAt?_eq_none_iff.mp hkind
        cases s with
        | nil => exact .nil
        | cons c cs =>
          rw [decodeOnce_cons hnone]
          exact .char hnone (ih cs.length (by rw [← hn]; simp) rfl)

/-! ## Texts without tags -/

theorem reduce_of_not_mem {s : Text} (h : '<' ∉ s) : reduce s = .ok (trim (unescape s)) := by
  rw [reduce, withoutTags_eq_self (tagFree_of_not_mem h)]
  rfl

/-- **Reducing a text without opening brackets is reading its entities once.**  There is just one way
to read it once, and it gives what reading kind after kind gives.  If the text is the written form of
another, that one is what is left: one level of writing is undone, however many there are. -/
theorem reduce_readsOnce {s : Text} (h : '<' ∉ s) :
    (∃ d, ReadsOnce s d ∧ (∀ d', ReadsOnce s d' → d' = d) ∧ unescape s = d ∧
      reduce s = .ok d.trim) ∧
    ∀ plain, s = escape plain → reduce s = .ok plain.trim := by
  have hreduce := reduce_of_not_mem h
  constructor
  · refine ⟨decodeOnce s, readsOnce_iff.mpr rfl, fun d' hd' => readsOnce_iff.mp hd',
      unescape_eq_decodeOnce s, ?_⟩
    rw [hreduce, unescape_eq_decodeOnce]
  · rintro plain rfl
    rw [hreduce, unescape_escape]

/-- An entity that is written twice over, and entities that are cut by others. -/
def twice : Text := "&amp;amp;lt; &ampamp; &&gt;t; &am&quot;p;".toList

theorem reduce_readsOnce_twice : '<' ∉ twice ∧
    reduce twice = .ok "&amp;lt; &ampamp; &>t; &am\"p;".toList := by
  have hopening : '<' ∉ twice := by decide
  obtain ⟨d, -, -, hread, hreduce⟩ := (reduce_readsOnce hopening).1
  have htrim : trim d = "&amp;lt; &ampamp; &>t; &am\"p;".toList := by
    rw [← hread]
    decide +kernel
  refine ⟨hopening, ?_⟩
  rw [hreduce, htrim]

end Switchboard.Markup
