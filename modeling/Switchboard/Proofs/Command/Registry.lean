import Mathlib.Data.List.Basic
import Mathlib.Data.List.Induction
import Switchboard.Proofs.Command.Detect

/-!
# The registry as a map

A registry is changed and asked in any order.  Whatever came before, it answers as a finite map
from names to commands: under a name it has the command that was registered last under it, unless
the name was taken out behind that registration.

* `Request`, `Answer`, `trace`: what is asked of a registry, and what it answers in a run.
* `LastRegistered`: the command of a name, read off the requests alone.
* `lookup_after_iff`: look-ups find just these commands.
* `registrations_perm`: registrations under different names may come in any order.
* `ActsAsMap`: how the answers of a registry fit together.
* `actsAsMap_after`: so they do behind any requests.
-/

namespace Switchboard.Registry

variable {H : Type}

/-! ## Requests -/

/-- What may be asked of a registry. -/
inductive Request (H : Type) where
  | register (e : Entry H)
  | unregister (name : Text)
  | lookup (name : Text)
  | contains (name : Text)
  | names
  | customPrefixes
  | size
  | isEmpty

/-- What a registry answers. -/
inductive Answer (H : Type) where
  | entry (found : Option (Entry H))
  | truth (b : Bool)
  | texts (ts : List Text)
  | number (n : Nat)

/-- The answer to a request, and the registry behind it. -/
def answer (r : Registry H) : Request H → Answer H × Registry H
  | .register e => (.entry (r.register e).1, (r.register e).2)
  | .unregister name => (.entry (r.unregister name).1, (r.unregister name).2)
  | .lookup name => (.entry (r.lookup name), r)
  | .contains name => (.truth (r.contains name), r)
  | .names => (.texts r.names, r)
  | .customPrefixes => (.texts r.customPrefixes, r)
  | .size => (.number r.size, r)
  | .isEmpty => (.truth r.isEmpty, r)

/-- The registry behind some requests. -/
def after (r : Registry H) (history : List (Request H)) : Registry H :=
  history.foldl (fun r q => (r.answer q).2) r

/-- Requests in order, each with its answer. -/
def trace : Registry H → List (Request H) → List (Request H × Answer H)
  | _, [] => []
  | r, q :: rest => (q, (r.answer q).1) :: trace (r.answer q).2 rest

/-- The request registers the name or takes it out. -/
def Request.Changes (name : Text) : Request H → Prop
  | register e => e.name = name
  | unregister n => n = name
  | _ => False

theorem after_append (r : Registry H) (history rest : List (Request H)) :
    r.after (history ++ rest) = (r.after history).after rest :=
  List.foldl_append

theorem after_concat (r : Registry H) (history : List (Request H)) (q : Request H) :
    r.after (history ++ [q]) = ((r.after history).answer q).2 :=
  r.after_append history [q]

theorem trace_append (r : Registry H) (history rest : List (Request H)) :
    r.trace (history ++ rest) = r.trace history ++ (r.after history).trace rest := by
  induction history generalizing r with
  | nil => rfl
  | cons q history ih =>
    rw [List.cons_append, trace, ih, trace, List.cons_append]
    rfl

/-- In the midst of a run a request is answered by the registry behind those before it. -/
theorem trace_append_cons (r : Registry H) (history : List (Request H)) (q : Request H)
    (behind : List (Request H)) :
    r.trace (history ++ q :: behind) =
      r.trace history ++ (q, ((r.after history).answer q).1) ::
        (r.after (history ++ [q])).trace behind := by
  rw [trace_append, trace, after_concat]

/-! ## Look-ups behind requests -/

section Lookups

variable {r : Registry H} {history : List (Request H)} {q : Request H} {name : Text} {e : Entry H}

/-- Behind a request a look-up finds the command that was just registered, or what it found before
if the name was not changed. -/
theorem lookup_answer_iff : (r.answer q).2.lookup name = some e ↔
    q = .register e ∧ e.name = name ∨ ¬q.Changes name ∧ r.lookup name = some e := by
  cases q with
  | register e' =>
    show (r.register e').2.lookup name = some e ↔ _
    rw [lookup_register, Request.Changes]
    by_cases hname : e'.name = name
    · subst hname
      simp only [if_true, Option.some.injEq, Request.register.injEq, not_true, false_and, or_false]
      exact ⟨fun he => ⟨he, he ▸ rfl⟩, And.left⟩
    · rw [if_neg (Ne.symm hname)]
      constructor
      · exact fun hfound => .inr ⟨hname, hfound⟩
      · rintro (⟨heq, he⟩ | ⟨-, hfound⟩)
        · cases heq
          exact absurd he hname
        · exact hfound
  | unregister n =>
    show (r.unregister n).2.lookup name = some e ↔ _
    rw [lookup_unregister, Request.Changes]
    by_cases hname : n = name
    · simp [hname]
    · simp [hname, Ne.symm hname]
  | _ => simp [answer, Request.Changes]

theorem answer_of_changes (h : q.Changes name) : (r.answer q).1 = .entry (r.lookup name) := by
  cases q with
  | register e =>
    cases h
    rfl
  | unregister n =>
    cases h
    rfl
  | _ => cases h

/-- The command was registered under the name, and the name was not changed behind that. -/
def LastRegistered (history : List (Request H)) (name : Text) (e : Entry H) : Prop :=
  ∃ before behind, history = before ++ .register e :: behind ∧ e.name = name ∧
    ∀ q ∈ behind, ¬q.Changes name

theorem not_lastRegistered_nil : ¬LastRegistered [] name e := by
  rintro ⟨before, behind, hsplit, -⟩
  exact List.append_ne_nil_of_right_ne_nil before (List.cons_ne_nil _ behind) hsplit.symm

theorem lastRegistered_concat_iff : LastRegistered (history ++ [q]) name e ↔
    q = .register e ∧ e.name = name ∨ ¬q.Changes name ∧ LastRegistered history name e := by
  constructor
  · rintro ⟨before, behind, hsplit, hname, hbehind⟩
    rcases List.eq_nil_or_concat behind with rfl | ⟨behind, q', rfl⟩
    · obtain ⟨-, hq⟩ := List.append_inj' hsplit rfl
      cases hq
      exact .inl ⟨rfl, hname⟩
    · rw [List.concat_eq_append] at hsplit hbehind
      rw [← List.cons_append, ← List.append_assoc] at hsplit
      obtain ⟨rfl, hq⟩ := List.append_inj' hsplit rfl
      cases hq
      obtain ⟨hrest, hlast⟩ := List.forall_mem_append.mp hbehind
      exact .inr ⟨hlast q List.mem_cons_self, before, behind, rfl, hname, hrest⟩
  · rintro (⟨rfl, hname⟩ | ⟨hq, before, behind, rfl, hname, hbehind⟩)
    · exact ⟨history, [], rfl, hname, List.forall_mem_nil _⟩
    · refine ⟨before, behind ++ [q], ?_, hname, ?_⟩
      · rw [List.append_assoc, List.cons_append]
      · exact List.forall_mem_append.mpr ⟨hbehind, List.forall_mem_singleton.mpr hq⟩

/-- **A look-up finds the command that was registered last under the name**, unless the name was
taken out behind that. -/
theorem lookup_after_iff :
    (empty.after history).lookup name = some e ↔ LastRegistered history name e := by
  -- the last request decides, or leaves the name to those before it
  induction history using List.reverseRecOn with
  | nil => exact iff_of_false nofun not_lastRegistered_nil
  | append_singleton history q ih =>
    rw [after_concat, lookup_answer_iff, lastRegistered_concat_iff, ih]

end Lookups

/-! ## What is registered -/

theorem mem_names_iff {r : Registry H} {name : Text} :
    name ∈ r.names ↔ (r.lookup name).isSome = true := by
  rw [names, KeyMap.keys, List.mem_map, Option.isSome_iff_exists]
  constructor
  · rintro ⟨⟨key, e⟩, hmem, rfl⟩
    exact ⟨e, r.commands.find?_eq_some_iff.mpr hmem⟩
  · rintro ⟨e, hfound⟩
    exact ⟨(name, e), r.commands.find?_eq_some_iff.mp hfound, rfl⟩

theorem names_nodup (r : Registry H) : r.names.Nodup := by
  refine r.commands.keys_pairwise.imp fun {name name'} hlt heq => ?_
  rw [heq] at hlt
  exact List.lt_irrefl name' hlt

theorem size_eq_length_names (r : Registry H) : r.size = r.names.length := by
  rw [names, KeyMap.keys, List.length_map]
  rfl

theorem isEmpty_iff {r : Registry H} : r.isEmpty = true ↔ r.size = 0 := by
  rw [isEmpty, List.isEmpty_iff_length_eq_zero]
  rfl

/-- The prefix that the command of a name has of its own. -/
def prefixOf? (r : Registry H) (name : Text) : Option Text :=
  (r.lookup name).bind Entry.customPrefix

theorem customPrefixes_eq_filterMap_names (r : Registry H) :
    r.customPrefixes = r.names.filterMap r.prefixOf? := by
  rw [customPrefixes, names, KeyMap.values, KeyMap.keys, List.filterMap_map, List.filterMap_map]
  refine List.filterMap_congr fun stored hmem => ?_
  have hfound : r.lookup stored.1 = some stored.2 := r.commands.find?_eq_some_iff.mpr hmem
  rw [Function.comp_apply, Function.comp_apply, prefixOf?, hfound, Option.bind_some]

/-- The registered names may be gone through in any order. -/
theorem customPrefixes_perm {r : Registry H} {names : List Text} (hnodup : names.Nodup)
    (hmem : ∀ name, name ∈ names ↔ (r.lookup name).isSome = true) :
    r.customPrefixes.Perm (names.filterMap r.prefixOf?) := by
  have hnames : r.names.Perm names := by
    rw [List.perm_ext_iff_of_nodup r.names_nodup hnodup]
    intro name
    rw [mem_names_iff, hmem]
  rw [customPrefixes_eq_filterMap_names]
  exact hnames.filterMap r.prefixOf?

/-! ## Registrations in any order -/

theorem ext_of_lookup {r r' : Registry H} (h : ∀ name, r.lookup name = r'.lookup name) :
    r = r' := by
  have hcommands : r.commands = r'.commands := KeyMap.ext_of_find? h
  cases r
  cases r'
  cases hcommands
  rfl

section Swap

variable (r : Registry H) {e e' : Entry H} (h : e.name ≠ e'.name)

include h

theorem register_comm :
    ((r.register e).2.register e').2 = ((r.register e').2.register e).2 := by
  apply ext_of_lookup
  intro name
  rw [lookup_register, lookup_register, lookup_register, lookup_register]
  by_cases he : name = e.name
  · rw [if_pos he, if_neg (he ▸ h), if_pos he]
  · rw [if_neg he, if_neg he]

/-- A registration gives back what was there before one under another name. -/
theorem answer_register_register :
    ((r.register e).2.answer (.register e')).1 = (r.answer (.register e')).1 := by
  show Answer.entry ((r.register e).2.lookup e'.name) = .entry (r.lookup e'.name)
  rw [lookup_register, if_neg h.symm]

end Swap

/-- **Registrations under different names may come in any order**: each gives back the same, and the
registry behind them is the same. -/
theorem registrations_perm {es es' : List (Entry H)} (hperm : es.Perm es')
    (hnames : (es.map Entry.name).Nodup) (r : Registry H) :
    (r.trace (es.map .register)).Perm (r.trace (es'.map .register)) ∧
      r.after (es.map .register) = r.after (es'.map .register) := by
  induction hperm generalizing r with
  | nil => exact ⟨.refl _, rfl⟩
  | cons e _ ih =>
    obtain ⟨htrace, hafter⟩ := ih (List.nodup_cons.mp hnames).2 (r.register e).2
    exact ⟨htrace.cons _, hafter⟩
  | swap e e' es =>
    have hne : e'.name ≠ e.name := fun heq =>
      (List.nodup_cons.mp hnames).1 (heq ▸ List.mem_cons_self)
    have hcomm := r.register_comm hne
    constructor
    · show (_ :: (_, ((r.register e').2.answer (.register e)).1) ::
          ((r.register e').2.register e).2.trace _).Perm
        (_ :: (_, ((r.register e).2.answer (.register e')).1) ::
          ((r.register e).2.register e').2.trace _)
      rw [r.answer_register_register hne, r.answer_register_register hne.symm, hcomm]
      exact .swap _ _ _
    · show ((r.register e').2.register e).2.after _ = ((r.register e).2.register e').2.after _
      rw [hcomm]
  | trans hfirst _ ih₁ ih₂ =>
    obtain ⟨htrace₁, hafter₁⟩ := ih₁ hnames r
    obtain ⟨htrace₂, hafter₂⟩ := ih₂ ((hfirst.map Entry.name).nodup hnames) r
    exact ⟨htrace₁.trans htrace₂, hafter₁.trans hafter₂⟩

/-! ## All answers together -/

/-- The registry answers as the finite map that the requests `history` make of an empty one. -/
structure ActsAsMap (history : List (Request H)) (r : Registry H) : Prop where
  /-- A change of a name gives back what a look-up of the name finds just before. -/
  given_back : ∀ q name, q.Changes name → (r.answer q).1 = .entry (r.lookup name)
  found_iff : ∀ name e, r.lookup name = some e ↔ LastRegistered history name e
  missing_iff : ∀ name, r.lookup name = none ↔ ∀ e, ¬LastRegistered history name e
  /-- Every command is kept, and found, under its own name. -/
  named : ∀ stored ∈ r.commands.entries,
    r.lookup stored.1 = some stored.2 ∧ stored.2.name = stored.1
  increasing : r.names.Pairwise (· < ·)
  listed_iff : ∀ name, name ∈ r.names ↔ r.contains name = true
  contained_iff : ∀ name, r.contains name = true ↔ (r.lookup name).isSome = true
  counted : r.size = r.names.length
  empty_iff : r.isEmpty = true ↔ r.size = 0
  /-- The prefix of every command is there, as often as there are commands with it; in which order
  the commands are gone through is left open. -/
  prefixes_perm : ∀ names : List Text, names.Nodup →
    (∀ name, name ∈ names ↔ (r.lookup name).isSome = true) →
    r.customPrefixes.Perm (names.filterMap r.prefixOf?)

/-- Only look-ups matter: a registry that finds the right commands answers everything else as the
map does. -/
theorem ActsAsMap.of_found {history : List (Request H)} {r : Registry H}
    (hfound : ∀ name e, r.lookup name = some e ↔ LastRegistered history name e) :
    r.ActsAsMap history where
  given_back _ _ hq := answer_of_changes hq
  found_iff := hfound
  missing_iff name := by
    rw [Option.eq_none_iff_forall_ne_some]
    exact forall_congr' fun e => not_congr (hfound name e)
  named := by
    intro stored hmem
    have hlookup : r.lookup stored.1 = some stored.2 := r.commands.find?_eq_some_iff.mpr hmem
    obtain ⟨-, -, -, hname, -⟩ := (hfound stored.1 stored.2).mp hlookup
    exact ⟨hlookup, hname⟩
  increasing := r.commands.keys_pairwise
  listed_iff _ := mem_names_iff
  contained_iff _ := Iff.rfl
  counted := r.size_eq_length_names
  empty_iff := isEmpty_iff
  prefixes_perm _ := customPrefixes_perm

/-- **A registry is a finite map.**  In any run from the empty registry each request is answered by
the registry that the requests before it made, and this one answers as the map does in which every
name has the command registered last under it and not taken out since.  Registrations under
different names may come in any order: each of them gives back the same, and no request behind them
is answered otherwise. -/
theorem actsAsMap_after (history : List (Request H)) :
    (∀ q behind, empty.trace (history ++ q :: behind) =
      empty.trace history ++ (q, ((empty.after history).answer q).1) ::
        (empty.after (history ++ [q])).trace behind) ∧
    (empty.after history).ActsAsMap history ∧
    ∀ es es' : List (Entry H), es.Perm es' → (es.map Entry.name).Nodup →
      ((empty.after history).trace (es.map .register)).Perm
        ((empty.after history).trace (es'.map .register)) ∧
      ∀ behind, (empty.after (history ++ es.map .register)).trace behind =
        (empty.after (history ++ es'.map .register)).trace behind := by
  refine ⟨empty.trace_append_cons history, .of_found fun _ _ => lookup_after_iff, ?_⟩
  intro es es' hperm hnames
  obtain ⟨htrace, hafter⟩ := registrations_perm hperm hnames (empty.after history)
  refine ⟨htrace, fun behind => ?_⟩
  rw [after_append, after_append, hafter]

/-- A command that is registered anew loses its prefix. -/
example : ((empty : Registry Unit).after
      [.register { name := "b".toList, handler := (), customPrefix := some "?".toList },
        .register { name := "a".toList, handler := (), customPrefix := some "!".toList }, .names,
        .register { name := "b".toList, handler := (), global := false }]).customPrefixes =
    ["!".toList] := by
  decide

end Switchboard.Registry
