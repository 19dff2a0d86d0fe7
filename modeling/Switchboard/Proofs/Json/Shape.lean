import Switchboard.Json.Basic

/-!
# The shape of JSON values

What may be told of a value without looking at its texts: the values inside it, the number of its
containers inside one another, and which of its numbers are integers.

* `Json.parts`, `Json.nesting`: the values inside a value, and how deep they are nested.
* `Json.Orderly`: the keys of all objects are increasing, and the nesting is bounded.
* `Json.Exact`: all numbers are integers of at most 64 bits.
* `Json.orderly_array_iff`, `Json.orderly_object_iff`, `Json.exact_array_iff`,
  `Json.exact_object_iff`: containers are what their items are.
-/

namespace Switchboard

/-- The number is an integer of 64 bits, with or without a sign. -/
def Number.Exact : Number → Prop
  | int i => -9223372036854775808 ≤ i ∧ i ≤ 18446744073709551615
  | float _ _ => False

instance : DecidablePred Number.Exact
  | .int i => inferInstanceAs (Decidable (-9223372036854775808 ≤ i ∧ i ≤ 18446744073709551615))
  | .float _ _ => .isFalse id

namespace Json

/-! ## Values inside values -/

mutual

/-- The value itself and all values inside it. -/
def parts : Json → List Json
  | array items => array items :: partsOfItems items
  | object members => object members :: partsOfMembers members
  | v => [v]

/-- The parts of all items. -/
def partsOfItems : List Json → List Json
  | [] => []
  | v :: vs => v.parts ++ partsOfItems vs

/-- The parts of all members. -/
def partsOfMembers : List (Text × Json) → List Json
  | [] => []
  | (_, v) :: ms => v.parts ++ partsOfMembers ms

end

mutual

/-- The greatest number of containers inside one another. -/
def nesting : Json → Nat
  | array items => nestingOfItems items + 1
  | object members => nestingOfMembers members + 1
  | _ => 0

/-- The greatest nesting of an item. -/
def nestingOfItems : List Json → Nat
  | [] => 0
  | v :: vs => max v.nesting (nestingOfItems vs)

/-- The greatest nesting of a member. -/
def nestingOfMembers : List (Text × Json) → Nat
  | [] => 0
  | (_, v) :: ms => max v.nesting (nestingOfMembers ms)

end

/-- The number, if this is one. -/
def number? : Json → Option Number
  | number n => some n
  | _ => none

/-- The members, if this is an object. -/
def members? : Json → Option (List (Text × Json))
  | object members => some members
  | _ => none

theorem number?_eq_some_iff {v : Json} {n : Number} : v.number? = some n ↔ v = number n := by
  cases v <;> simp [number?]

theorem members?_eq_some_iff {v : Json} {members : List (Text × Json)} :
    v.members? = some members ↔ v = object members := by
  cases v <;> simp [members?]

theorem mem_partsOfItems_iff {p : Json} {items : List Json} :
    p ∈ partsOfItems items ↔ ∃ v ∈ items, p ∈ v.parts := by
  have hflat : partsOfItems items = items.flatMap parts := by
    induction items with
    | nil => rfl
    | cons v vs ih => rw [partsOfItems, List.flatMap_cons, ih]
  rw [hflat, List.mem_flatMap]

theorem mem_partsOfMembers_iff {p : Json} {members : List (Text × Json)} :
    p ∈ partsOfMembers members ↔ ∃ m ∈ members, p ∈ m.2.parts := by
  have hflat : partsOfMembers members = members.flatMap fun m => m.2.parts := by
    induction members with
    | nil => rfl
    | cons m ms ih => rw [partsOfMembers, List.flatMap_cons, ih]
  rw [hflat, List.mem_flatMap]

theorem nestingOfItems_le_iff {d : Nat} {items : List Json} :
    nestingOfItems items ≤ d ↔ ∀ v ∈ items, v.nesting ≤ d := by
  induction items with
  | nil => exact ⟨fun _ _ h => (nomatch h), fun _ => Nat.zero_le d⟩
  | cons v vs ih => rw [nestingOfItems, Nat.max_le, ih, List.forall_mem_cons]

theorem nestingOfMembers_le_iff {d : Nat} {members : List (Text × Json)} :
    nestingOfMembers members ≤ d ↔ ∀ m ∈ members, m.2.nesting ≤ d := by
  induction members with
  | nil => exact ⟨fun _ _ h => (nomatch h), fun _ => Nat.zero_le d⟩
  | cons m ms ih => rw [nestingOfMembers, Nat.max_le, ih, List.forall_mem_cons]

/-! ## Orderly values -/

/-- The keys of every object in the value are increasing, and at most so many containers are inside
one another. -/
structure Orderly (depth : Nat) (v : Json) : Prop where
  sorted : ∀ members, object members ∈ v.parts → Entries.Sorted members
  shallow : v.nesting ≤ depth

theorem orderly_iff {depth : Nat} {v : Json} : v.Orderly depth ↔
    (∀ members ∈ v.parts.filterMap members?, Entries.Sorted members) ∧ v.nesting ≤ depth := by
  have hmem : ∀ members, members ∈ v.parts.filterMap members? ↔ object members ∈ v.parts := by
    intro members
    simp only [List.mem_filterMap, members?_eq_some_iff, exists_eq_right]
  constructor
  · intro h
    exact ⟨fun members hm => h.sorted members ((hmem members).mp hm), h.shallow⟩
  · rintro ⟨hsorted, hshallow⟩
    exact ⟨fun members hm => hsorted members ((hmem members).mpr hm), hshallow⟩

instance (depth : Nat) (v : Json) : Decidable (v.Orderly depth) := decidable_of_iff' _ orderly_iff

theorem orderly_array_iff {d : Nat} {items : List Json} :
    (array items).Orderly (d + 1) ↔ ∀ v ∈ items, v.Orderly d := by
  constructor
  · intro h v hv
    have hparts : ∀ members, object members ∈ v.parts → object members ∈ (array items).parts :=
      fun _ hm => List.mem_cons_of_mem _ (mem_partsOfItems_iff.mpr ⟨v, hv, hm⟩)
    have hnesting : nestingOfItems items ≤ d := Nat.le_of_succ_le_succ h.shallow
    exact ⟨fun members hm => h.sorted members (hparts members hm),
      nestingOfItems_le_iff.mp hnesting v hv⟩
  · intro h
    refine ⟨?_, Nat.succ_le_succ (nestingOfItems_le_iff.mpr fun v hv => (h v hv).shallow)⟩
    intro members hm
    obtain hm | hm := List.mem_cons.mp hm
    · cases hm
    · obtain ⟨v, hv, hm⟩ := mem_partsOfItems_iff.mp hm
      exact (h v hv).sorted members hm

theorem orderly_object_iff {d : Nat} {members : List (Text × Json)} :
    (object members).Orderly (d + 1) ↔
      Entries.Sorted members ∧ ∀ m ∈ members, m.2.Orderly d := by
  constructor
  · intro h
    refine ⟨h.sorted members List.mem_cons_self, fun m hm => ?_⟩
    have hparts : ∀ ms, object ms ∈ m.2.parts → object ms ∈ (object members).parts :=
      fun _ hms => List.mem_cons_of_mem _ (mem_partsOfMembers_iff.mpr ⟨m, hm, hms⟩)
    have hnesting : nestingOfMembers members ≤ d := Nat.le_of_succ_le_succ h.shallow
    exact ⟨fun ms hms => h.sorted ms (hparts ms hms), nestingOfMembers_le_iff.mp hnesting m hm⟩
  · rintro ⟨hsorted, h⟩
    refine ⟨?_, Nat.succ_le_succ (nestingOfMembers_le_iff.mpr fun m hm => (h m hm).shallow)⟩
    intro ms hms
    obtain hms | hms := List.mem_cons.mp hms
    · cases hms
      exact hsorted
    · obtain ⟨m, hm, hms⟩ := mem_partsOfMembers_iff.mp hms
      exact (h m hm).sorted ms hms

/-! ## Exact values -/

/-- All numbers in the value are integers of 64 bits. -/
def Exact (v : Json) : Prop := ∀ n, number n ∈ v.parts → n.Exact

theorem exact_iff {v : Json} : v.Exact ↔ ∀ n ∈ v.parts.filterMap number?, n.Exact := by
  simp only [Exact, List.mem_filterMap, number?_eq_some_iff, exists_eq_right]

instance (v : Json) : Decidable v.Exact := decidable_of_iff' _ exact_iff

theorem exact_number_iff {n : Number} : (number n).Exact ↔ n.Exact := by
  constructor
  · intro h
    exact h n List.mem_cons_self
  · intro h m hm
    cases List.mem_singleton.mp hm
    exact h

theorem exact_array_iff {items : List Json} : (array items).Exact ↔ ∀ v ∈ items, v.Exact := by
  constructor
  · intro h v hv n hn
    exact h n (List.mem_cons_of_mem _ (mem_partsOfItems_iff.mpr ⟨v, hv, hn⟩))
  · intro h n hn
    obtain hn | hn := List.mem_cons.mp hn
    · cases hn
    · obtain ⟨v, hv, hn⟩ := mem_partsOfItems_iff.mp hn
      exact h v hv n hn

theorem exact_object_iff {members : List (Text × Json)} :
    (object members).Exact ↔ ∀ m ∈ members, m.2.Exact := by
  constructor
  · intro h m hm n hn
    exact h n (List.mem_cons_of_mem _ (mem_partsOfMembers_iff.mpr ⟨m, hm, hn⟩))
  · intro h n hn
    obtain hn | hn := List.mem_cons.mp hn
    · cases hn
    · obtain ⟨m, hm, hn⟩ := mem_partsOfMembers_iff.mp hn
      exact h m hm n hn

end Json

end Switchboard
