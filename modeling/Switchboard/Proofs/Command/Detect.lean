import Switchboard.World

/-!
# Detecting commands

A message is a command if it starts with a prefix in force, be it a usual one or that of a registered
command.

* `KeyMap.find?_eq_some_iff`: entries are what look-ups find.
* `World.Detects`: the message starts with a prefix in force.
* `isCommand?_eq_some_iff`: the filter for commands lets just those messages pass.
-/

namespace Switchboard

variable {H M V : Type}

/-! ## Entries and look-ups -/

theorem Entries.find?_eq_some_iff {k : Text} {v : V} {es : List (Text × V)}
    (h : Entries.Sorted es) : Entries.find? k es = some v ↔ (k, v) ∈ es := by
  induction es with
  | nil =>
    constructor
    · intro hfind
      cases hfind
    · intro hmem
      cases hmem
  | cons e es ih =>
    obtain ⟨k', v'⟩ := e
    obtain ⟨hfirst, hrest⟩ := List.pairwise_cons.mp h
    rw [Entries.find?]
    by_cases hk : k = k'
    · subst hk
      rw [if_pos rfl, List.mem_cons]
      constructor
      · intro hv
        exact .inl (congrArg _ (Option.some.inj hv).symm)
      · rintro (heq | hmem)
        · exact congrArg some (Prod.mk.inj heq).2.symm
        · -- the keys behind are greater
          exact absurd (hfirst _ hmem) (List.lt_irrefl k)
    · rw [if_neg hk, ih hrest, List.mem_cons]
      constructor
      · exact .inr
      · rintro (heq | hmem)
        · exact absurd (Prod.mk.inj heq).1 hk
        · exact hmem

theorem KeyMap.find?_eq_some_iff (m : KeyMap V) {k : Text} {v : V} :
    m.find? k = some v ↔ (k, v) ∈ m.entries :=
  Entries.find?_eq_some_iff m.sorted

theorem Registry.mem_customPrefixes_iff (r : Registry H) {p : Text} :
    p ∈ r.customPrefixes ↔ ∃ name entry, r.lookup name = some entry ∧ entry.customPrefix = some p := by
  rw [Registry.customPrefixes, KeyMap.values, List.filterMap_map, List.mem_filterMap]
  constructor
  · rintro ⟨⟨name, entry⟩, hmem, hcustom⟩
    exact ⟨name, entry, (KeyMap.find?_eq_some_iff _).mpr hmem, hcustom⟩
  · rintro ⟨name, entry, hlookup, hcustom⟩
    exact ⟨(name, entry), (KeyMap.find?_eq_some_iff _).mp hlookup, hcustom⟩

/-! ## Prefixes -/

/-- The longer of two texts in UTF-8, and the second if they are equally long. -/
def longer (best t : Text) : Text := if best.size8 ≤ t.size8 then t else best

theorem longest?_cons (t : Text) (ts : List Text) :
    longest? (t :: ts) = some (ts.foldl longer t) := by
  rw [longest?, List.foldl_cons]
  refine List.foldl_hom some fun best t => ?_
  show (if best.size8 ≤ t.size8 then some t else some best) = some (longer best t)
  rw [longer, apply_ite some]

/-- There is a longest of some texts, unless there are none. -/
theorem longest?_eq_none_iff {texts : List Text} : longest? texts = none ↔ texts = [] := by
  cases texts with
  | nil => exact ⟨fun _ => rfl, fun _ => rfl⟩
  | cons t ts =>
    rw [longest?_cons]
    simp

theorem longestPrefix?_eq_none_iff {prefixes : List Text} {text : Text} :
    longestPrefix? prefixes text = none ↔ ∀ p ∈ prefixes, ¬p <+: text := by
  rw [longestPrefix?, longest?_eq_none_iff, List.filter_eq_nil_iff]
  simp only [List.isPrefixOf_iff_prefix]

/-- The message starts with a usual prefix, or with that of a registered command. -/
def World.Detects (w : World H M) (message : Text) : Prop :=
  ∃ p, p <+: message ∧ (p ∈ w.settings.prefixes ∨
    ∃ name entry, w.registry.lookup name = some entry ∧ entry.customPrefix = some p)

theorem matchedPrefix?_eq_none_iff {w : World H M} {message : Text} :
    w.matchedPrefix? message = none ↔ ¬w.Detects message := by
  rw [World.matchedPrefix?, longestPrefix?_eq_none_iff]
  constructor
  · rintro h ⟨p, hp, hforce⟩
    refine h p ?_ hp
    rw [World.prefixes, List.mem_append, Registry.mem_customPrefixes_iff]
    exact hforce
  · intro h p hmem hp
    rw [World.prefixes, List.mem_append, Registry.mem_customPrefixes_iff] at hmem
    exact h ⟨p, hp, hmem⟩

/-- **The filter for commands lets the record itself pass, just if its message starts with a prefix
in force.** -/
theorem isCommand?_eq_some_iff {w : World H M} {r r' : Record} :
    w.isCommand? r = some r' ↔ w.Detects r.message ∧ r' = r := by
  rw [World.isCommand?, Option.map_eq_some_iff]
  constructor
  · rintro ⟨p, hp, rfl⟩
    refine ⟨?_, rfl⟩
    by_cases hdetects : w.Detects r.message
    · exact hdetects
    · rw [matchedPrefix?_eq_none_iff.mpr hdetects] at hp
      cases hp
  · rintro ⟨hdetects, rfl⟩
    cases hmatched : w.matchedPrefix? r'.message with
    | none => exact absurd hdetects (matchedPrefix?_eq_none_iff.mp hmatched)
    | some p => exact ⟨p, rfl, rfl⟩

end Switchboard
