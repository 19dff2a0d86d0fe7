import Switchboard.Json.Read
import Switchboard.Proofs.Json.Shape

/-!
# What is read is in order

Whatever the text is, a value that is read from it has objects with increasing keys, and is not
nested deeper than its reader allows.

* `Json.exists_read_of_readItems`: every item of an array has been read by the reader of items.
* `Json.invariant_readMembers`: what all members keep, an object keeps.
* `Json.orderly_of_readValue`: values.
-/

namespace Switchboard.Json

variable {ε α β σ : Type}

/-! ## Results -/

theorem exists_of_bind_eq_ok {x : Except ε α} {f : α → Except ε β} {b : β}
    (h : x >>= f = .ok b) : ∃ a, x = .ok a ∧ f a = .ok b := by
  cases x with
  | error e => cases h
  | ok a => exact ⟨a, rfl, h⟩

theorem exists_of_map_eq_ok {x : Except ε α} {f : α → β} {b : β} (h : f <$> x = .ok b) :
    ∃ a, x = .ok a ∧ f a = b := by
  cases x with
  | error e => cases h
  | ok a => exact ⟨a, rfl, Except.ok.inj h⟩

theorem map_eq_ok_iff {x : Except ε α} {f : α → β} {b : β} :
    f <$> x = .ok b ↔ ∃ a, x = .ok a ∧ f a = b := by
  constructor
  · exact exists_of_map_eq_ok
  · rintro ⟨a, rfl, rfl⟩
    rfl

theorem readAll_eq_ok_iff {reader : Reader α} {s : Text} {a : α} :
    readAll reader s = .ok a ↔ ∃ rest, reader s = .ok (a, rest) ∧ skipSpace rest = [] := by
  constructor
  · intro h
    obtain ⟨⟨b, rest⟩, hread, h⟩ := exists_of_bind_eq_ok h
    have hrest : (if skipSpace rest = [] then .ok b else .error .syntaxError : Except ReadError α) =
        .ok a := h
    split at hrest
    · next hend =>
      cases hrest
      exact ⟨rest, hread, hend⟩
    · cases hrest
  · rintro ⟨rest, hread, hend⟩
    rw [readAll, hread]
    show (if skipSpace rest = [] then .ok a else .error .syntaxError : Except ReadError α) = .ok a
    rw [if_pos hend]

/-! ## Arrays -/

section Items

variable {item : Reader α} {vs : List α} {s rest : Text} {v : α}

theorem exists_read_of_moreItems {fuel : Nat} (h : moreItems item fuel s = .ok (vs, rest))
    (hv : v ∈ vs) : ∃ s' rest', item s' = .ok (v, rest') := by
  induction fuel generalizing s vs with
  | zero => cases h
  | succ fuel ih =>
    rw [moreItems] at h
    split at h
    · cases h
    · cases h
      cases hv
    · obtain ⟨⟨w, s₁⟩, hitem, h⟩ := exists_of_bind_eq_ok h
      obtain ⟨⟨ws, s₂⟩, hmore, h⟩ := exists_of_bind_eq_ok h
      cases h
      obtain rfl | hv := List.mem_cons.mp hv
      · exact ⟨_, _, hitem⟩
      · exact ih hmore hv
    · cases h

/-- Every item of an array has been read by the reader of items. -/
theorem exists_read_of_readItems (h : readItems item s = .ok (vs, rest)) (hv : v ∈ vs) :
    ∃ s' rest', item s' = .ok (v, rest') := by
  rw [readItems] at h
  split at h
  · cases h
  · cases h
    cases hv
  · obtain ⟨⟨w, s₁⟩, hitem, h⟩ := exists_of_bind_eq_ok h
    obtain ⟨⟨ws, s₂⟩, hmore, h⟩ := exists_of_bind_eq_ok h
    cases h
    obtain rfl | hv := List.mem_cons.mp hv
    · exact ⟨_, _, hitem⟩
    · exact exists_read_of_moreItems hmore hv

end Items

/-! ## Objects -/

/-- Every member that is read keeps what holds of the state of an object. -/
def KeepsMembers (member : MemberReader σ) (I : σ → Prop) : Prop :=
  ∀ state key value s next rest, I state → member state key = .ok value →
    value s = .ok (next, rest) → I next

section Members

variable {member : MemberReader σ} {I : σ → Prop} (hkeeps : KeepsMembers member I)
  {state next : σ} {s rest : Text}

include hkeeps

theorem invariant_readMember (hstate : I state) (h : readMember member state s = .ok (next, rest)) :
    I next := by
  unfold readMember at h
  split at h
  · obtain ⟨⟨key, s₁⟩, -, h⟩ := exists_of_bind_eq_ok h
    obtain ⟨value, hmember, h⟩ := exists_of_bind_eq_ok h
    split at h
    · cases h
    · exact hkeeps state key value _ next rest hstate hmember h
    · cases h
  · cases h
  · cases h

theorem invariant_moreMembers {fuel : Nat} (hstate : I state)
    (h : moreMembers member fuel state s = .ok (next, rest)) : I next := by
  induction fuel generalizing state s with
  | zero => cases h
  | succ fuel ih =>
    rw [moreMembers] at h
    split at h
    · cases h
    · cases h
      exact hstate
    · obtain ⟨⟨state₁, s₁⟩, hread, h⟩ := exists_of_bind_eq_ok h
      exact ih (invariant_readMember hkeeps hstate hread) h
    · cases h

/-- **What all members keep, an object keeps.** -/
theorem invariant_readMembers (hstate : I state)
    (h : readMembers member state s = .ok (next, rest)) : I next := by
  rw [readMembers] at h
  split at h
  · cases h
  · cases h
    exact hstate
  · obtain ⟨⟨state₁, s₁⟩, hread, h⟩ := exists_of_bind_eq_ok h
    exact invariant_moreMembers hkeeps (invariant_readMember hkeeps hstate hread) h

end Members

/-- The values of an object have been read by the reader of values. -/
theorem exists_read_of_readAllMembers {value : Reader Json} {ms : List (Text × Json)}
    {s rest : Text} (h : readAllMembers value s = .ok (ms, rest)) {m : Text × Json} (hm : m ∈ ms) :
    ∃ s' rest', value s' = .ok (m.2, rest') := by
  have hkeeps : KeepsMembers (collectMember value)
      fun ms => ∀ m ∈ ms, ∃ s' rest', value s' = .ok (m.2, rest') := by
    intro ms key reader s next rest hms hmember hread
    cases hmember
    obtain ⟨⟨v, s₁⟩, hv, h⟩ := exists_of_map_eq_ok hread
    cases h
    exact List.forall_mem_cons.mpr ⟨⟨s, _, hv⟩, hms⟩
  obtain ⟨⟨collected, s₁⟩, hread, h⟩ := exists_of_map_eq_ok h
  cases h
  exact invariant_readMembers hkeeps (List.forall_mem_nil _) hread m (List.mem_reverse.mp hm)

/-! ## Values -/

theorem nesting_of_map_eq_ok {x : Except ε α} {f : α → Json × Text} {v : Json} {rest : Text}
    (hf : ∀ a, (f a).1.nesting = 0) (h : f <$> x = .ok (v, rest)) : v.nesting = 0 := by
  obtain ⟨a, -, ha⟩ := exists_of_map_eq_ok h
  rw [← hf a, ha]

/-- A value that is read has no containers, or is read by one of the readers for containers. -/
theorem readHead_cases {array object : Reader Json} {s rest : Text} {v : Json}
    (h : readHead array object s = .ok (v, rest)) :
    v.nesting = 0 ∨ (∃ s', array s' = .ok (v, rest)) ∨ ∃ s', object s' = .ok (v, rest) := by
  rw [readHead] at h
  split at h
  · cases h
  · exact .inl (nesting_of_map_eq_ok (fun _ => rfl) h)
  · exact .inl (nesting_of_map_eq_ok (fun _ => rfl) h)
  · exact .inl (nesting_of_map_eq_ok (fun _ => rfl) h)
  · exact .inl (nesting_of_map_eq_ok (fun _ => rfl) h)
  · exact .inr (.inl ⟨_, h⟩)
  · exact .inr (.inr ⟨_, h⟩)
  · split at h
    · exact .inl (nesting_of_map_eq_ok (fun _ => rfl) h)
    · cases h

theorem orderly_of_nesting_eq_zero {v : Json} (h : v.nesting = 0) (depth : Nat) :
    v.Orderly depth := by
  refine ⟨fun members hmem => ?_, ?_⟩
  · cases v with
    | array items => cases h
    | object ms => cases h
    | _ => cases List.mem_singleton.mp hmem
  · rw [h]
    exact Nat.zero_le depth

/-- **A value that is read is orderly**, to the depth of its reader. -/
theorem orderly_of_readValue {depth : Nat} {s rest : Text} {v : Json}
    (h : readValue depth s = .ok (v, rest)) : v.Orderly depth := by
  induction depth generalizing s rest v with
  | zero =>
    obtain hscalar | ⟨s', harray⟩ | ⟨s', hobject⟩ := readHead_cases h
    · exact orderly_of_nesting_eq_zero hscalar 0
    · cases harray
    · cases hobject
  | succ depth ih =>
    obtain hscalar | ⟨s', harray⟩ | ⟨s', hobject⟩ := readHead_cases h
    · exact orderly_of_nesting_eq_zero hscalar _
    · obtain ⟨⟨vs, r⟩, hitems, hv⟩ := exists_of_map_eq_ok harray
      cases hv
      rw [orderly_array_iff]
      intro w hw
      obtain ⟨s₁, r₁, hread⟩ := exists_read_of_readItems hitems hw
      exact ih hread
    · obtain ⟨⟨ms, r⟩, hmembers, hv⟩ := exists_of_map_eq_ok hobject
      cases hv
      rw [ofMembers, orderly_object_iff]
      refine ⟨(KeyMap.ofList ms).sorted, fun m hm => ?_⟩
      obtain ⟨s₁, r₁, hread⟩ := exists_read_of_readAllMembers hmembers (KeyMap.mem_of_mem_ofList hm)
      exact ih hread

end Switchboard.Json
