import Mathlib.Data.List.Nodup
import Switchboard.Proofs.Command.Detect

/-!
# The longest prefix

Of all prefixes in force that a text starts with, the longest is matched.  Two prefixes of one text
that are equally long are equal, so nothing else about the prefixes matters: neither in which order
they come, nor how often, nor where from.

* `longestPrefix?_eq_some_iff`: the longest of the prefixes that a text starts with.
* `longestPrefix?_congr`: it depends on which prefixes there are, and on nothing else.
* `Adjustment`: what may be done to the prefixes; the last word counts.
* `matchedPrefix?_behind`: which prefix is matched behind any adjustments.
-/

namespace Switchboard

variable {H M ε : Type}

/-! ## Lengths -/

namespace Text

theorem size8_pos {s : Text} (h : s ≠ []) : 0 < s.size8 := by
  obtain ⟨c, cs, rfl⟩ := List.exists_cons_of_ne_nil h
  have hc : 0 < c.utf8Size := c.utf8Size_pos
  rw [size8]
  omega

/-- A proper prefix is shorter in UTF-8. -/
theorem size8_lt_of_prefix {p q : Text} (h : p <+: q) (hne : p ≠ q) : p.size8 < q.size8 := by
  obtain ⟨t, rfl⟩ := h
  have ht : t ≠ [] := by
    rintro rfl
    exact hne (List.append_nil p).symm
  have hpos := size8_pos ht
  rw [size8_append]
  omega

/-- **A prefix of a text with at least as many bytes as another has that one for its prefix.** -/
theorem prefix_of_size8_le {p q text : Text} (hp : p <+: text) (hq : q <+: text)
    (h : q.size8 ≤ p.size8) : q <+: p := by
  rcases Nat.le_total q.length p.length with hle | hle
  · exact List.prefix_of_prefix_length_le hq hp hle
  · have hpq : p <+: q := List.prefix_of_prefix_length_le hp hq hle
    by_cases heq : p = q
    · exact heq ▸ List.prefix_refl p
    · have hlt := size8_lt_of_prefix hpq heq
      omega

end Text

/-! ## The longest of some prefixes -/

/-- The longest of some texts is one of them, and none has more bytes. -/
theorem foldl_longer (best : Text) (ts : List Text) :
    ts.foldl longer best ∈ best :: ts ∧ ∀ t ∈ best :: ts, t.size8 ≤ (ts.foldl longer best).size8 := by
  induction ts generalizing best with
  | nil => simp
  | cons t ts ih =>
    obtain ⟨hmem, hmost⟩ := ih (longer best t)
    obtain ⟨hfirst, hrest⟩ := List.forall_mem_cons.mp hmost
    rw [List.foldl_cons, List.forall_mem_cons, List.forall_mem_cons]
    by_cases hle : best.size8 ≤ t.size8
    · have hlonger : longer best t = t := if_pos hle
      rw [hlonger] at hmem hfirst hrest ⊢
      exact ⟨List.mem_cons_of_mem best hmem, by omega, hfirst, hrest⟩
    · have hlonger : longer best t = best := if_neg hle
      rw [hlonger] at hmem hfirst hrest ⊢
      refine ⟨?_, hfirst, by omega, hrest⟩
      obtain hbest | hts := List.mem_cons.mp hmem
      · rw [hbest]
        exact List.mem_cons_self
      · exact List.mem_cons_of_mem best (List.mem_cons_of_mem t hts)

theorem longest?_eq_some {texts : List Text} {p : Text} (h : longest? texts = some p) :
    p ∈ texts ∧ ∀ t ∈ texts, t.size8 ≤ p.size8 := by
  cases texts with
  | nil => cases h
  | cons t ts =>
    rw [longest?_cons] at h
    cases h
    exact foldl_longer t ts

/-- The text starts with `p`, which is one of certain texts, and with no longer one of them.  Length
is in characters; for prefixes of one text it is the same to count bytes. -/
structure LongestPrefix (among : Text → Prop) (text p : Text) : Prop where
  mem : among p
  starts : p <+: text
  longest : ∀ q, among q → q <+: text → q.length ≤ p.length

theorem mem_filter_isPrefixOf {prefixes : List Text} {text p : Text} :
    p ∈ prefixes.filter (·.isPrefixOf text) ↔ p ∈ prefixes ∧ p <+: text := by
  rw [List.mem_filter, List.isPrefixOf_iff_prefix]

/-- **The longest of the prefixes that a text starts with.** -/
theorem longestPrefix?_eq_some_iff {prefixes : List Text} {text p : Text} :
    longestPrefix? prefixes text = some p ↔ LongestPrefix (· ∈ prefixes) text p := by
  constructor
  · intro h
    obtain ⟨hmem, hmost⟩ := longest?_eq_some h
    obtain ⟨hp, hstarts⟩ := mem_filter_isPrefixOf.mp hmem
    refine ⟨hp, hstarts, fun q hq hqstarts => ?_⟩
    have hle : q.size8 ≤ p.size8 := hmost q (mem_filter_isPrefixOf.mpr ⟨hq, hqstarts⟩)
    exact (Text.prefix_of_size8_le hstarts hqstarts hle).length_le
  · rintro ⟨hp, hstarts, hlongest⟩
    have hfilter : p ∈ prefixes.filter (·.isPrefixOf text) :=
      mem_filter_isPrefixOf.mpr ⟨hp, hstarts⟩
    cases hfound : longestPrefix? prefixes text with
    | none =>
      rw [longestPrefix?, longest?_eq_none_iff] at hfound
      rw [hfound] at hfilter
      cases hfilter
    | some q =>
      obtain ⟨hmem, hmost⟩ := longest?_eq_some hfound
      obtain ⟨hq, hqstarts⟩ := mem_filter_isPrefixOf.mp hmem
      -- `q` has most bytes and `p` most characters
      have hpq : p <+: q := Text.prefix_of_size8_le hqstarts hstarts (hmost p hfilter)
      rw [hpq.eq_of_length_le (hlongest q hq hqstarts)]

/-- **Which prefixes there are is all that matters**, not their order and not how often one
comes. -/
theorem longestPrefix?_congr {prefixes prefixes' : List Text}
    (h : ∀ p, p ∈ prefixes ↔ p ∈ prefixes') (text : Text) :
    longestPrefix? prefixes text = longestPrefix? prefixes' text := by
  have hamong : (· ∈ prefixes) = (· ∈ prefixes') := funext fun p => propext (h p)
  ext p
  rw [longestPrefix?_eq_some_iff, longestPrefix?_eq_some_iff, hamong]

/-! ## Adjustments -/

/-- What may be done to the prefixes in force while a bot runs. -/
inductive Adjustment (H : Type) where
  | register (e : Entry H)
  | unregister (name : Text)
  | setPrefixes (prefixes : List Text)
  | setSettings (settings : CommandSettings)

namespace Adjustment

/-- Makes the adjustment. -/
def run : Adjustment H → Action (World H M) ε Unit
  | register e => do
    let _ ← World.register e
  | unregister name => do
    let _ ← World.unregister name
  | setPrefixes prefixes => World.setPrefixes prefixes
  | setSettings settings => World.setSettings settings

/-- Makes adjustments in order. -/
def runAll : List (Adjustment H) → Action (World H M) ε Unit
  | [] => return ()
  | a :: rest => do
    a.run
    runAll rest

/-- What the adjustment says about the usual prefixes, if anything. -/
def usual? : Adjustment H → Option (List Text)
  | setPrefixes prefixes => some prefixes
  | setSettings settings => some settings.prefixes
  | register _ | unregister _ => none

/-- What the adjustment says about the command of a name, if anything: that it is there, or that there
is none. -/
def command? (name : Text) : Adjustment H → Option (Option (Entry H))
  | register e => if name = e.name then some (some e) else none
  | unregister n => if name = n then some none else none
  | setPrefixes _ | setSettings _ => none

/-- The world behind the adjustment. -/
def applyTo (w : World H M) (a : Adjustment H) : World H M :=
  ((a.run : Action (World H M) Empty Unit).run w).world

theorem applyTo_register (e : Entry H) (w : World H M) :
    (register e).applyTo w = { w with registry := (w.registry.register e).2 } := by
  rw [applyTo, run, Action.run_bind_of_ok (w.register_run e)]
  rfl

theorem usual_applyTo (a : Adjustment H) (w : World H M) :
    (a.applyTo w).settings.prefixes = a.usual?.getD w.settings.prefixes := by
  cases a with
  | register e => rw [applyTo_register, usual?, Option.getD_none]
  | unregister name => rfl
  | setPrefixes prefixes => rfl
  | setSettings settings => rfl

theorem lookup_applyTo (name : Text) (a : Adjustment H) (w : World H M) :
    (a.applyTo w).registry.lookup name = (a.command? name).getD (w.registry.lookup name) := by
  cases a with
  | register e =>
    rw [applyTo_register, command?, apply_ite (Option.getD · _)]
    exact w.registry.lookup_register e name
  | unregister n =>
    rw [command?, apply_ite (Option.getD · _)]
    exact w.registry.lookup_unregister n name
  | setPrefixes prefixes => rfl
  | setSettings settings => rfl

end Adjustment

namespace World

open Adjustment

/-- The world behind some adjustments. -/
def adjusted (w : World H M) (history : List (Adjustment H)) : World H M :=
  ((runAll history : Action (World H M) Empty Unit).run w).world

/-- The usual prefixes behind some adjustments: the last word on them counts. -/
def usualBehind (w : World H M) (history : List (Adjustment H)) : List Text :=
  (history.reverse.findSome? usual?).getD w.settings.prefixes

/-- The command of a name behind some adjustments: the last word on it counts. -/
def commandBehind (w : World H M) (history : List (Adjustment H)) (name : Text) :
    Option (Entry H) :=
  (history.reverse.findSome? (command? name)).getD (w.registry.lookup name)

/-- The prefix is a usual one behind some adjustments, or that of a command that is registered
then. -/
def InForceBehind (w : World H M) (history : List (Adjustment H)) (p : Text) : Prop :=
  p ∈ w.usualBehind history ∨
    ∃ name entry, w.commandBehind history name = some entry ∧ entry.customPrefix = some p

theorem adjusted_cons (w : World H M) (a : Adjustment H) (history : List (Adjustment H)) :
    w.adjusted (a :: history) = (a.applyTo w).adjusted history := by
  rcases hrun : (a.run : Action (World H M) Empty Unit).run w with ⟨e | ⟨⟩, w', log⟩
  · exact nomatch e
  · have hworld : a.applyTo w = w' := by rw [applyTo, hrun]
    rw [adjusted, runAll, Action.run_bind_of_ok hrun, hworld]
    rfl

/-- **The last word counts**: what adjustments say about a part of the world is what the last of them
says that has something to say. -/
theorem adjusted_lastWord {β : Type} (part : World H M → β) (word : Adjustment H → Option β)
    (h : ∀ a w, part (a.applyTo w) = (word a).getD (part w)) (w : World H M)
    (history : List (Adjustment H)) :
    part (w.adjusted history) = (history.reverse.findSome? word).getD (part w) := by
  induction history generalizing w with
  | nil => rfl
  | cons a rest ih =>
    rw [adjusted_cons, ih, h, List.reverse_cons, List.findSome?_append, List.findSome?_singleton]
    cases rest.reverse.findSome? word <;> rfl

theorem usual_adjusted (w : World H M) (history : List (Adjustment H)) :
    (w.adjusted history).settings.prefixes = w.usualBehind history :=
  adjusted_lastWord (fun w => w.settings.prefixes) usual? usual_applyTo w history

theorem lookup_adjusted (w : World H M) (history : List (Adjustment H)) (name : Text) :
    (w.adjusted history).registry.lookup name = w.commandBehind history name :=
  adjusted_lastWord (fun w => w.registry.lookup name) (command? name) (lookup_applyTo name) w
    history

/-- The prefixes that the parser goes through are those in force. -/
theorem mem_prefixes_adjusted {w : World H M} {history : List (Adjustment H)} {p : Text} :
    p ∈ (w.adjusted history).prefixes ↔ w.InForceBehind history p := by
  rw [prefixes, List.mem_append, usual_adjusted, Registry.mem_customPrefixes_iff]
  simp only [lookup_adjusted]
  rfl

/-! ## Registrations in any order -/

theorem command?_register (name : Text) (e : Entry H) :
    command? name (.register e) = if name = e.name then some (some e) else none := rfl

/-- Of registrations under different names, each stays. -/
theorem commandBehind_append_register {w : World H M} {history : List (Adjustment H)}
    {es : List (Entry H)} (hnames : (es.map Entry.name).Nodup) {e : Entry H} (he : e ∈ es) :
    w.commandBehind (history ++ es.map .register) e.name = some e := by
  rw [commandBehind, List.reverse_append, List.findSome?_append]
  cases hfound : (es.map Adjustment.register).reverse.findSome? (command? e.name) with
  | none =>
    rw [List.findSome?_eq_none_iff] at hfound
    have hmem : Adjustment.register e ∈ (es.map Adjustment.register).reverse :=
      List.mem_reverse.mpr (List.mem_map_of_mem he)
    have hnone := hfound _ hmem
    rw [command?_register, if_pos rfl] at hnone
    cases hnone
  | some found =>
    obtain ⟨a, ha, hword⟩ := List.exists_of_findSome?_eq_some hfound
    obtain ⟨e', he', rfl⟩ := List.mem_map.mp (List.mem_reverse.mp ha)
    rw [command?_register] at hword
    by_cases hname : e.name = e'.name
    · rw [if_pos hname] at hword
      have heq : e = e' := List.inj_on_of_nodup_map hnames he he' hname
      cases hword
      rw [heq]
      rfl
    · rw [if_neg hname] at hword
      cases hword

/-- A name that is not registered is as it was. -/
theorem commandBehind_append_of_forall_ne {w : World H M} {history : List (Adjustment H)}
    {es : List (Entry H)} {name : Text} (hname : ∀ e ∈ es, name ≠ e.name) :
    w.commandBehind (history ++ es.map .register) name = w.commandBehind history name := by
  have hnone : (es.map Adjustment.register).reverse.findSome? (command? name) = none := by
    rw [List.findSome?_eq_none_iff]
    intro a ha
    obtain ⟨e, he, rfl⟩ := List.mem_map.mp (List.mem_reverse.mp ha)
    rw [command?_register, if_neg (hname e he)]
  rw [commandBehind, List.reverse_append, List.findSome?_append, hnone]
  rfl

theorem usualBehind_append_register (w : World H M) (history : List (Adjustment H))
    (es : List (Entry H)) :
    w.usualBehind (history ++ es.map .register) = w.usualBehind history := by
  have hnone : (es.map Adjustment.register).reverse.findSome? usual? = none := by
    rw [List.findSome?_eq_none_iff]
    intro a ha
    obtain ⟨e, he, rfl⟩ := List.mem_map.mp (List.mem_reverse.mp ha)
    rfl
  rw [usualBehind, List.reverse_append, List.findSome?_append, hnone]
  rfl

/-- **Registrations under different names may come in any order.** -/
theorem commandBehind_perm {w : World H M} {history : List (Adjustment H)} {es es' : List (Entry H)}
    (hperm : es.Perm es') (hnames : (es.map Entry.name).Nodup) (name : Text) :
    w.commandBehind (history ++ es.map .register) name =
      w.commandBehind (history ++ es'.map .register) name := by
  by_cases hmem : ∃ e ∈ es, name = e.name
  · obtain ⟨e, he, rfl⟩ := hmem
    have hnames' : (es'.map Entry.name).Nodup := (hperm.map Entry.name).nodup hnames
    rw [commandBehind_append_register hnames he,
      commandBehind_append_register hnames' (hperm.subset he)]
  · have hname : ∀ e ∈ es, name ≠ e.name := fun e he heq => hmem ⟨e, he, heq⟩
    rw [commandBehind_append_of_forall_ne hname,
      commandBehind_append_of_forall_ne fun e he => hname e (hperm.symm.subset he)]

end World

/-! ## Matching -/

theorem matchedPrefix?_adjusted_congr {w : World H M} {history history' : List (Adjustment H)}
    (husual : ∀ p, p ∈ w.usualBehind history ↔ p ∈ w.usualBehind history')
    (hcommand : ∀ name, w.commandBehind history name = w.commandBehind history' name)
    (text : Text) :
    (w.adjusted history).matchedPrefix? text = (w.adjusted history').matchedPrefix? text := by
  refine longestPrefix?_congr (fun p => ?_) text
  rw [World.mem_prefixes_adjusted, World.mem_prefixes_adjusted, World.InForceBehind,
    World.InForceBehind, husual]
  simp only [hcommand]

theorem mem_filterMap_of_perm {entries entries' : List (Entry H)} (h : entries.Perm entries')
    (p : Text) : p ∈ entries.filterMap Entry.customPrefix ↔
      p ∈ entries'.filterMap Entry.customPrefix :=
  (h.filterMap Entry.customPrefix).mem_iff

theorem isCommand?_eq (w : World H M) (r : Record) :
    w.isCommand? r = if (w.matchedPrefix? r.message).isSome then some r else none := by
  rw [World.isCommand?]
  cases w.matchedPrefix? r.message <;> rfl

/-- **The matched prefix is the longest in force.**  Behind any registrations, replacements and
removals of commands and any changes of the settings, a prefix is matched just if it is a usual
prefix as last set or that of a command as last registered, the text starts with it, and with no
longer one; none is matched just if the text starts with no prefix in force.  It does not matter in
which order and how often the usual prefixes are listed, in which order the registry is gone through,
and in which order commands of different names were registered.  The filter for commands lets the
record itself pass where a prefix is matched, and nothing elsewhere. -/
theorem matchedPrefix?_behind (w : World H M) (history : List (Adjustment H)) (text : Text) :
    (∀ p, (w.adjusted history).matchedPrefix? text = some p ↔
      LongestPrefix (w.InForceBehind history) text p) ∧
    ((w.adjusted history).matchedPrefix? text = none ↔
      ∀ p, w.InForceBehind history p → ¬p <+: text) ∧
    (∀ (usual : List Text) (entries : List (Entry H)),
      (∀ p, p ∈ usual ↔ p ∈ w.usualBehind history) →
      entries.Perm (w.adjusted history).registry.commands.values →
      longestPrefix? (usual ++ entries.filterMap Entry.customPrefix) text =
        (w.adjusted history).matchedPrefix? text) ∧
    (∀ history', (∀ p, p ∈ w.usualBehind history ↔ p ∈ w.usualBehind history') →
      (∀ name, w.commandBehind history name = w.commandBehind history' name) →
      (w.adjusted history).matchedPrefix? text = (w.adjusted history').matchedPrefix? text) ∧
    (∀ es es' : List (Entry H), es.Perm es' → (es.map Entry.name).Nodup →
      (w.adjusted (history ++ es.map .register)).matchedPrefix? text =
        (w.adjusted (history ++ es'.map .register)).matchedPrefix? text) ∧
    ∀ r, (w.adjusted history).isCommand? r =
      if ((w.adjusted history).matchedPrefix? r.message).isSome then some r else none := by
  have hforce : (· ∈ (w.adjusted history).prefixes) = w.InForceBehind history :=
    funext fun p => propext World.mem_prefixes_adjusted
  refine ⟨fun p => ?_, ?_, ?_, fun history' husual hcommand => ?_, ?_, isCommand?_eq _⟩
  · rw [← hforce]
    exact longestPrefix?_eq_some_iff
  · rw [← hforce]
    exact longestPrefix?_eq_none_iff
  · intro usual entries husual hentries
    refine longestPrefix?_congr (fun p => ?_) text
    rw [World.prefixes, List.mem_append, List.mem_append, husual, World.usual_adjusted,
      mem_filterMap_of_perm hentries]
    rfl
  · exact matchedPrefix?_adjusted_congr husual hcommand text
  · intro es es' hperm hnames
    refine matchedPrefix?_adjusted_congr (fun p => ?_) (World.commandBehind_perm hperm hnames) text
    rw [World.usualBehind_append_register, World.usualBehind_append_register]

/-- The longest prefix goes when its command is replaced by one without, and the next one is
matched. -/
example : ((World.adjusted { memory := () } [.setPrefixes ["!".toList, "".toList, "!".toList],
      .register { name := "a".toList, handler := (), customPrefix := some "!é".toList },
      .register { name := "b".toList, handler := (), customPrefix := some "!éx".toList },
      .register { name := "b".toList, handler := () }] : World Unit Unit).matchedPrefix?
    "!éxy".toList) = some "!é".toList := by
  decide +kernel

end Switchboard
