import Switchboard.Text.Basic

/-!
# Maps keyed by text

A map is kept as the list of its entries in strictly increasing order of the keys, so that two maps
with the same entries are equal.

* `KeyMap.insert`, `KeyMap.erase`, `KeyMap.find?`: the operations.
* `KeyMap.find?_insert`, `KeyMap.find?_erase`: what they do to a look-up.
* `KeyMap.ext_of_find?`: maps with the same look-ups are equal.
* `KeyMap.entries_ofList`: the map of a list in order has the list for its entries.
* `KeyMap.find?_ofList`: of several entries of a key the map of a list has the last one.
* `KeyMap.keys_pairwise`: the keys are strictly increasing.
-/

namespace Switchboard

/-! ## Lists of entries in order -/

namespace Entries

variable {V : Type}

/-- The value under a key in a list of entries. -/
def find? (k : Text) : List (Text × V) → Option V
  | [] => none
  | (k', v) :: rest => if k = k' then some v else find? k rest

/-- The list with the key put in its place; an entry of the same key is replaced. -/
def insert (k : Text) (v : V) : List (Text × V) → List (Text × V)
  | [] => [(k, v)]
  | (k', v') :: rest =>
    if k < k' then (k, v) :: (k', v') :: rest
    else if k = k' then (k, v) :: rest
    else (k', v') :: insert k v rest

/-- The list without the entries of a key. -/
def erase (k : Text) (es : List (Text × V)) : List (Text × V) := es.filter fun e => e.1 ≠ k

/-- The values under a key in the order of the list. -/
def valuesOf (k : Text) (es : List (Text × V)) : List V := (es.filter fun e => e.1 = k).map (·.2)

/-- The keys are strictly increasing. -/
def Sorted (es : List (Text × V)) : Prop := es.Pairwise fun a b => a.1 < b.1

instance (es : List (Text × V)) : Decidable (Sorted es) :=
  inferInstanceAs (Decidable (es.Pairwise _))

theorem lt_or_gt_of_ne {a b : Text} (h : a ≠ b) : a < b ∨ b < a := by
  by_cases hab : a < b
  · exact .inl hab
  · by_cases hba : b < a
    · exact .inr hba
    · exact absurd (List.le_antisymm hba hab) h

theorem mem_insert {k : Text} {v : V} {es : List (Text × V)} {e : Text × V}
    (h : e ∈ insert k v es) : e = (k, v) ∨ e ∈ es := by
  induction es with
  | nil => simpa [insert] using h
  | cons a es ih =>
    obtain ⟨k', v'⟩ := a
    unfold insert at h
    split at h
    · simpa using h
    · split at h
      · rcases List.mem_cons.1 h with h | h
        · exact .inl h
        · exact .inr (List.mem_cons_of_mem _ h)
      · rcases List.mem_cons.1 h with h | h
        · exact .inr (by rw [h]; exact List.mem_cons_self)
        · exact (ih h).imp id (List.mem_cons_of_mem _)

theorem Sorted.insert {es : List (Text × V)} (h : Sorted es) (k : Text) (v : V) :
    Sorted (Entries.insert k v es) := by
  unfold Sorted at *
  induction es with
  | nil => simp [Entries.insert]
  | cons a es ih =>
    obtain ⟨k', v'⟩ := a
    have ⟨h₁, h₂⟩ := List.pairwise_cons.1 h
    unfold Entries.insert
    split
    · next hk =>
      refine List.pairwise_cons.2 ⟨fun e he => ?_, h⟩
      rcases List.mem_cons.1 he with rfl | he
      · exact hk
      · exact List.lt_trans hk (h₁ e he)
    · next hk =>
      split
      · next hkk => exact List.pairwise_cons.2 ⟨fun e he => by rw [hkk]; exact h₁ e he, h₂⟩
      · next hkk =>
        refine List.pairwise_cons.2 ⟨fun e he => ?_, ih h₂⟩
        rcases mem_insert he with rfl | he
        · exact (lt_or_gt_of_ne hkk).resolve_left hk
        · exact h₁ e he

theorem Sorted.erase {es : List (Text × V)} (h : Sorted es) (k : Text) :
    Sorted (Entries.erase k es) := List.Pairwise.sublist List.filter_sublist h

theorem find?_insert (k k' : Text) (v : V) (es : List (Text × V)) :
    find? k' (insert k v es) = if k' = k then some v else find? k' es := by
  induction es with
  | nil => simp [insert, find?]
  | cons a es ih =>
    obtain ⟨k₁, v₁⟩ := a
    unfold insert
    split
    · next h => by_cases hk : k' = k <;> simp [find?, hk]
    · split
      · next h => subst h; by_cases hk : k' = k <;> simp [find?, hk]
      · next h =>
        simp only [find?, ih]
        by_cases hk : k' = k₁
        · subst hk; simp [Ne.symm h]
        · simp [hk]

theorem find?_erase (k k' : Text) (es : List (Text × V)) :
    find? k' (erase k es) = if k' = k then none else find? k' es := by
  induction es with
  | nil => simp [erase, find?]
  | cons a es ih =>
    obtain ⟨k₁, v₁⟩ := a
    unfold erase at ih ⊢
    rw [List.filter_cons]
    by_cases h : k₁ = k
    · subst h; simp only [ne_eq, not_true, decide_false, Bool.false_eq_true, ite_false, ih, find?]
      by_cases hk : k' = k₁ <;> simp [hk]
    · simp only [ne_eq, h, not_false_eq_true, decide_true, ite_true, find?, ih]
      by_cases hk : k' = k₁
      · subst hk; simp [h]
      · simp [hk]

theorem find?_eq_none_iff {k : Text} {es : List (Text × V)} :
    find? k es = none ↔ ∀ e ∈ es, e.1 ≠ k := by
  induction es with
  | nil => simp [find?]
  | cons a es ih =>
    obtain ⟨k', v⟩ := a
    rw [find?, List.forall_mem_cons, ← ih]
    by_cases hk : k = k'
    · simp [hk]
    · simp [hk, Ne.symm hk]

/-- A key greater than all others comes last. -/
theorem insert_of_forall_lt {k : Text} {es : List (Text × V)} (h : ∀ e ∈ es, e.1 < k) (v : V) :
    insert k v es = es ++ [(k, v)] := by
  induction es with
  | nil => rfl
  | cons a es ih =>
    obtain ⟨k', v'⟩ := a
    obtain ⟨hk, hrest⟩ := List.forall_mem_cons.mp h
    have hne : k ≠ k' := by
      rintro rfl
      exact List.lt_irrefl k hk
    rw [insert, if_neg (List.lt_asymm hk), if_neg hne, ih hrest, List.cons_append]

@[simp] theorem valuesOf_nil (k : Text) : valuesOf k ([] : List (Text × V)) = [] := rfl

@[simp] theorem valuesOf_cons_self (k : Text) (v : V) (es : List (Text × V)) :
    valuesOf k ((k, v) :: es) = v :: valuesOf k es := by
  simp [valuesOf]

theorem valuesOf_cons_of_ne {k k' : Text} (h : k' ≠ k) (v : V) (es : List (Text × V)) :
    valuesOf k ((k', v) :: es) = valuesOf k es := by
  simp [valuesOf, h]

theorem valuesOf_append (k : Text) (es es' : List (Text × V)) :
    valuesOf k (es ++ es') = valuesOf k es ++ valuesOf k es' := by
  simp [valuesOf]

theorem Sorted.find?_eq_none {k : Text} {e : Text × V} {es : List (Text × V)}
    (h : Sorted (e :: es)) (hk : k = e.1 ∨ k < e.1) : find? k es = none := by
  refine find?_eq_none_iff.mpr fun e' he' heq => ?_
  have hlt : e.1 < e'.1 := (List.pairwise_cons.mp h).1 e' he'
  rw [heq] at hlt
  rcases hk with rfl | hk
  · exact List.lt_irrefl _ hlt
  · exact List.lt_asymm hk hlt

/-- A first key smaller than that of another list would not be in it. -/
theorem Sorted.not_lt_of_find?_eq {e e' : Text × V} {es es' : List (Text × V)}
    (h' : Sorted (e' :: es')) (heq : ∀ k, find? k (e :: es) = find? k (e' :: es')) :
    ¬e.1 < e'.1 := by
  intro hlt
  have hne : e.1 ≠ e'.1 := fun hkey => List.lt_irrefl e.1 (hkey ▸ hlt)
  have hfound := heq e.1
  rw [find?, if_pos rfl, find?, if_neg hne, h'.find?_eq_none (.inr hlt)] at hfound
  cases hfound

/-- Lists in order with the same look-ups are equal. -/
theorem Sorted.ext {es es' : List (Text × V)} (h : Sorted es) (h' : Sorted es')
    (heq : ∀ k, find? k es = find? k es') : es = es' := by
  induction es generalizing es' with
  | nil =>
    cases es' with
    | nil => rfl
    | cons e' es' =>
      have hfound := heq e'.1
      rw [find?, find?, if_pos rfl] at hfound
      cases hfound
  | cons e es ih =>
    cases es' with
    | nil =>
      have hfound := heq e.1
      rw [find?, find?, if_pos rfl] at hfound
      cases hfound
    | cons e' es' =>
      have hkey : e.1 = e'.1 :=
        List.le_antisymm (h.not_lt_of_find?_eq fun k => (heq k).symm) (h'.not_lt_of_find?_eq heq)
      obtain ⟨k, v⟩ := e
      obtain ⟨k', v'⟩ := e'
      cases hkey
      have hvalue := heq k
      rw [find?, if_pos rfl, find?, if_pos rfl] at hvalue
      cases hvalue
      have hrest : es = es' := by
        refine ih (List.pairwise_cons.mp h).2 (List.pairwise_cons.mp h').2 fun j => ?_
        by_cases hj : j = k
        · rw [h.find?_eq_none (.inl hj), h'.find?_eq_none (.inl hj)]
        · have hfound := heq j
          rw [find?, if_neg hj, find?, if_neg hj] at hfound
          exact hfound
      rw [hrest]

end Entries

/-! ## Maps -/

/-- A finite map from texts, as its entries in increasing order of their keys. -/
structure KeyMap (V : Type) where
  entries : List (Text × V) := []
  sorted : Entries.Sorted entries := by decide
  deriving DecidableEq

namespace KeyMap

variable {V : Type}

/-- The map without entries. -/
def empty : KeyMap V := ⟨[], .nil⟩

instance : Inhabited (KeyMap V) := ⟨empty⟩

/-- The value under a key. -/
def find? (m : KeyMap V) (k : Text) : Option V := Entries.find? k m.entries

/-- The map with a value put under a key, in place of the one that was there. -/
def insert (m : KeyMap V) (k : Text) (v : V) : KeyMap V :=
  ⟨Entries.insert k v m.entries, m.sorted.insert k v⟩

/-- The map without a key. -/
def erase (m : KeyMap V) (k : Text) : KeyMap V := ⟨Entries.erase k m.entries, m.sorted.erase k⟩

/-- Whether the key has a value. -/
def contains (m : KeyMap V) (k : Text) : Bool := (m.find? k).isSome

/-- The keys in increasing order. -/
def keys (m : KeyMap V) : List Text := m.entries.map (·.1)

/-- The values in the order of their keys. -/
def values (m : KeyMap V) : List V := m.entries.map (·.2)

/-- The number of entries. -/
def size (m : KeyMap V) : Nat := m.entries.length

/-- The map of a list of entries, of which a later one replaces an earlier one of the same key. -/
def ofList (es : List (Text × V)) : KeyMap V := es.foldl (fun m e => m.insert e.1 e.2) empty

@[simp] theorem find?_empty (k : Text) : (empty : KeyMap V).find? k = none := rfl

theorem find?_insert (m : KeyMap V) (k k' : Text) (v : V) :
    (m.insert k v).find? k' = if k' = k then some v else m.find? k' :=
  Entries.find?_insert k k' v m.entries

theorem find?_erase (m : KeyMap V) (k k' : Text) :
    (m.erase k).find? k' = if k' = k then none else m.find? k' :=
  Entries.find?_erase k k' m.entries

theorem entries_foldl_insert {m : KeyMap V} {es : List (Text × V)}
    (h : Entries.Sorted (m.entries ++ es)) :
    (es.foldl (fun m e => m.insert e.1 e.2) m).entries = m.entries ++ es := by
  induction es generalizing m with
  | nil => exact (List.append_nil m.entries).symm
  | cons e es ih =>
    have hgreatest : ∀ e' ∈ m.entries, e'.1 < e.1 :=
      fun e' he' => (List.pairwise_append.mp h).2.2 e' he' e List.mem_cons_self
    have hinsert : (m.insert e.1 e.2).entries = m.entries ++ [e] :=
      Entries.insert_of_forall_lt hgreatest e.2
    rw [List.append_cons, ← hinsert] at h
    rw [List.foldl_cons, ih h, hinsert, List.append_assoc, List.singleton_append]

/-- Maps with the same look-ups are equal. -/
theorem ext_of_find? {m m' : KeyMap V} (h : ∀ k, m.find? k = m'.find? k) : m = m' := by
  have hentries : m.entries = m'.entries := m.sorted.ext m'.sorted h
  cases m
  cases m'
  cases hentries
  rfl

theorem find?_foldl_insert (m : KeyMap V) (es : List (Text × V)) (k : Text) :
    (es.foldl (fun m e => m.insert e.1 e.2) m).find? k =
      (Entries.valuesOf k es).getLast?.or (m.find? k) := by
  induction es generalizing m with
  | nil => rfl
  | cons e es ih =>
    obtain ⟨k', v⟩ := e
    rw [List.foldl_cons, ih, find?_insert]
    by_cases hk : k = k'
    · rw [if_pos hk, hk, Entries.valuesOf_cons_self, List.getLast?_cons]
      cases (Entries.valuesOf k' es).getLast? <;> rfl
    · rw [if_neg hk, Entries.valuesOf_cons_of_ne (Ne.symm hk)]

/-- **Of several entries of a key the map of a list has the last one.** -/
theorem find?_ofList (es : List (Text × V)) (k : Text) :
    (ofList es).find? k = (Entries.valuesOf k es).getLast? := by
  rw [ofList, find?_foldl_insert, find?_empty, Option.or_none]

/-- **The map of a list in order has the list for its entries.** -/
theorem entries_ofList {es : List (Text × V)} (h : Entries.Sorted es) : (ofList es).entries = es :=
  entries_foldl_insert h

/-- A map is that of its entries. -/
theorem ofList_entries (m : KeyMap V) : ofList m.entries = m := by
  have hentries : (ofList m.entries).entries = m.entries := entries_ofList m.sorted
  cases hm : ofList m.entries with
  | mk entries sorted =>
    rw [hm] at hentries
    cases hentries
    rfl

theorem mem_of_mem_foldl_insert {m : KeyMap V} {es : List (Text × V)} {e : Text × V}
    (h : e ∈ (es.foldl (fun m e => m.insert e.1 e.2) m).entries) : e ∈ m.entries ∨ e ∈ es := by
  induction es generalizing m with
  | nil => exact .inl h
  | cons a es ih =>
    obtain hm | hes := ih h
    · obtain rfl | hm := Entries.mem_insert hm
      · exact .inr List.mem_cons_self
      · exact .inl hm
    · exact .inr (List.mem_cons_of_mem a hes)

/-- The entries of the map of a list are from the list. -/
theorem mem_of_mem_ofList {es : List (Text × V)} {e : Text × V} (h : e ∈ (ofList es).entries) :
    e ∈ es := by
  obtain hempty | hes := mem_of_mem_foldl_insert h
  · cases hempty
  · exact hes

theorem keys_pairwise (m : KeyMap V) : m.keys.Pairwise (· < ·) :=
  List.pairwise_map.2 m.sorted

end KeyMap

end Switchboard
