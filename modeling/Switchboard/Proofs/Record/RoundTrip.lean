import Switchboard.Proofs.Json.InOrder
import Switchboard.Proofs.Json.ReadBack
import Switchboard.Record.Read

/-!
# Records are read back

A record is read back from its text, unless a further field has the name of the channel or of the
message: then that member comes twice, and the text is refused.  A record that has been read has no
such field, and stays the same however often it is written and read again.

* `Record.fields`: the further fields as one value.
* `Record.leads_members`: what reading the members of a record comes to.
* `Record.orderly_of_parse`, `Record.not_named_of_parse`: what is known of a record that has been read.
* `Record.parse_write`: which records are read back.
-/

namespace Switchboard.Record

open Json

/-! ## Further fields -/

/-- The further fields as one value. -/
def fields (r : Record) : Json := .object r.extra.entries

/-- The name is that of the channel or of the message. -/
def IsNamed (key : Text) : Prop := key = channelKey ∨ key = messageKey

/-! ## Reading what is written -/

section Written

variable {p : Partial} {key c t : Text} {v : Json} {es : List (Text × Json)}

theorem readString_write (t rest : Text) :
    readString ((Json.string t).write ++ rest) = .ok (t, rest) := by
  rw [Json.write, writeString_append, readString, skipSpace_cons (by decide)]
  exact stringBody_writeString t rest

theorem readMember_channelKey (h : p.channel = none) :
    Record.readMember p channelKey = .ok fun s =>
      (fun (t, r) => ({ p with channel := some t }, r)) <$> readString s := by
  rw [Record.readMember, if_pos rfl, h]

theorem readMember_messageKey (h : p.message = none) :
    Record.readMember p messageKey = .ok fun s =>
      (fun (t, r) => ({ p with message := some t }, r)) <$> readString s := by
  rw [Record.readMember, if_neg (by decide), if_pos rfl, h]

theorem readMember_of_not_isNamed (h : ¬IsNamed key) (p : Partial) :
    Record.readMember p key = .ok fun s =>
      (fun (v, r) => ({ p with others := (key, v) :: p.others }, r)) <$>
        readValue (depthLimit - 1) s := by
  rw [IsNamed, not_or] at h
  rw [Record.readMember, if_neg h.1, if_neg h.2]

/-- Behind the channel and the message both names are refused. -/
theorem readMember_of_isNamed (h : IsNamed key) (hc : p.channel = some c)
    (ht : p.message = some t) :
    Record.readMember p key = .error (.shape (.duplicateField key)) := by
  obtain rfl | rfl := h
  · rw [Record.readMember, if_pos rfl, hc]
  · rw [Record.readMember, if_neg (by decide), if_pos rfl, ht]

theorem readMember_write_string (next : Text → Partial)
    (h : Record.readMember p key = .ok fun s => (fun (t, r) => (next t, r)) <$> readString s)
    (t : Text) (rest : Text) (hrest : AtEnd rest) :
    Json.readMember Record.readMember p (writeMember (key, .string t) ++ rest) =
      .ok (next t, rest) := by
  refine readMember_write h (fun after _ => ?_) rest hrest
  rw [readString_write]
  rfl

/-- A further field is read as a value and kept. -/
theorem readMember_write_other {m : Text × Json} (hnamed : ¬IsNamed m.1)
    (hvalue : m.2.Orderly (depthLimit - 1) ∧ m.2.Exact) (p : Partial) (rest : Text)
    (hrest : AtEnd rest) :
    Json.readMember Record.readMember p (writeMember m ++ rest) =
      .ok ({ p with others := m :: p.others }, rest) := by
  refine readMember_write (readMember_of_not_isNamed hnamed p) (fun after hafter => ?_) rest hrest
  rw [readValue_write hvalue.1 hvalue.2 hafter]
  rfl

theorem leads_others (hnamed : ∀ m ∈ es, ¬IsNamed m.1)
    (hvalues : ∀ m ∈ es, m.2.Orderly (depthLimit - 1) ∧ m.2.Exact) (p : Partial) :
    Leads Record.readMember p es (.ok { p with others := es.reverse ++ p.others }) := by
  induction es generalizing p with
  | nil => exact .nil p
  | cons m es ih =>
    obtain ⟨hm, hes⟩ := List.forall_mem_cons.mp hnamed
    obtain ⟨hv, hvs⟩ := List.forall_mem_cons.mp hvalues
    have hrest := ih hes hvs { p with others := m :: p.others }
    rw [List.reverse_cons, List.append_assoc, List.singleton_append]
    exact .cons (readMember_write_other hm hv p) hrest

/-- The first further field with the name of another member is refused. -/
theorem exists_leads_duplicate (hnamed : ∃ m ∈ es, IsNamed m.1)
    (hvalues : ∀ m ∈ es, m.2.Orderly (depthLimit - 1) ∧ m.2.Exact) (hc : p.channel = some c)
    (ht : p.message = some t) :
    ∃ m ∈ es, IsNamed m.1 ∧
      Leads Record.readMember p es (.error (.shape (.duplicateField m.1))) := by
  induction es generalizing p with
  | nil =>
    obtain ⟨m, hm, -⟩ := hnamed
    cases hm
  | cons m es ih =>
    by_cases hm : IsNamed m.1
    · refine ⟨m, List.mem_cons_self, hm, .refused (fun rest _ => ?_) es⟩
      exact readMember_refused (readMember_of_isNamed hm hc ht) rest
    · obtain ⟨hv, hvs⟩ := List.forall_mem_cons.mp hvalues
      have hes : ∃ n ∈ es, IsNamed n.1 := by
        obtain ⟨n, hn, hname⟩ := hnamed
        obtain rfl | hn := List.mem_cons.mp hn
        · exact absurd hname hm
        · exact ⟨n, hn, hname⟩
      obtain ⟨n, hn, hname, hleads⟩ := ih hes hvs (p := { p with others := m :: p.others }) hc ht
      exact ⟨n, List.mem_cons_of_mem m hn, hname, .cons (readMember_write_other hm hv p) hleads⟩

/-- What reading the members of a record comes to is what reading its further fields comes to. -/
theorem leads_members {r : Record} {result : Except ReadError Partial}
    (h : Leads Record.readMember { channel := some r.channel, message := some r.message }
      r.extra.entries result) : Leads Record.readMember {} r.members result := by
  have hchannel := readMember_write_string (p := {}) (fun t => { channel := some t })
    (readMember_channelKey rfl) r.channel
  have hmessage := readMember_write_string (p := { channel := some r.channel })
    (fun t => { channel := some r.channel, message := some t }) (readMember_messageKey rfl) r.message
  exact .cons hchannel (.cons hmessage h)

theorem parse_write_of_leads {r : Record} {result : Except ReadError Partial}
    (h : Leads Record.readMember {} r.members result) : parse r.write = result >>= Partial.finish := by
  have hmembers := readMembers_write h []
  have hwrite : r.write = '\x7b' :: (writeMembers r.members ++ ['\x7d']) := by
    rw [Record.write, Json.write, List.cons_append]
  rw [parse, readAll, hwrite, read, skipSpace_cons (by decide)]
  cases result with
  | error e =>
    simp only [hmembers]
    rfl
  | ok p =>
    simp only [hmembers, Functor.map, Except.map, bind, Except.bind, pure, Except.pure]
    cases p.finish <;> rfl

theorem values_of_fields {r : Record} (horderly : r.fields.Orderly depthLimit)
    (hexact : r.fields.Exact) :
    ∀ m ∈ r.extra.entries, m.2.Orderly (depthLimit - 1) ∧ m.2.Exact := by
  intro m hm
  exact ⟨(orderly_object_iff.mp horderly).2 m hm, exact_object_iff.mp hexact m hm⟩

/-- **A record whose further fields have names of their own is read back.** -/
theorem parse_write_of_not_named {r : Record} (horderly : r.fields.Orderly depthLimit)
    (hexact : r.fields.Exact) (hnamed : ∀ m ∈ r.extra.entries, ¬IsNamed m.1) :
    parse r.write = .ok r := by
  have hvalues := values_of_fields horderly hexact
  rw [parse_write_of_leads (leads_members (leads_others hnamed hvalues _))]
  simp only [bind, Except.bind, Partial.finish, List.append_nil, List.reverse_reverse,
    KeyMap.ofList_entries]

/-- A record with a further field that has the name of another member is not. -/
theorem exists_parse_write_eq_error {r : Record} (horderly : r.fields.Orderly depthLimit)
    (hexact : r.fields.Exact) (hnamed : ∃ m ∈ r.extra.entries, IsNamed m.1) :
    ∃ m ∈ r.extra.entries, IsNamed m.1 ∧
      parse r.write = .error (.shape (.duplicateField m.1)) := by
  have hvalues := values_of_fields horderly hexact
  obtain ⟨m, hm, hname, hleads⟩ := exists_leads_duplicate
    (p := { channel := some r.channel, message := some r.message }) hnamed hvalues rfl rfl
  refine ⟨m, hm, hname, ?_⟩
  rw [parse_write_of_leads (leads_members hleads)]
  rfl

end Written

/-! ## Records that have been read -/

/-- What holds of the members of a record while they are read: further fields have names of their own
and values that are orderly. -/
def Partial.Proper (p : Partial) : Prop :=
  ∀ m ∈ p.others, ¬IsNamed m.1 ∧ m.2.Orderly (depthLimit - 1)

theorem keepsMembers_proper : KeepsMembers Record.readMember Partial.Proper := by
  intro p key value s next rest hp hmember hread
  by_cases hchannel : key = channelKey
  · rw [Record.readMember, if_pos hchannel] at hmember
    split at hmember
    · cases hmember
    · cases hmember
      obtain ⟨⟨t, r⟩, -, h⟩ := exists_of_map_eq_ok hread
      cases h
      exact hp
  by_cases hmessage : key = messageKey
  · rw [Record.readMember, if_neg hchannel, if_pos hmessage] at hmember
    split at hmember
    · cases hmember
    · cases hmember
      obtain ⟨⟨t, r⟩, -, h⟩ := exists_of_map_eq_ok hread
      cases h
      exact hp
  · have hnamed : ¬IsNamed key := not_or.mpr ⟨hchannel, hmessage⟩
    rw [readMember_of_not_isNamed hnamed] at hmember
    cases hmember
    obtain ⟨⟨v, r⟩, hvalue, h⟩ := exists_of_map_eq_ok hread
    cases h
    exact List.forall_mem_cons.mpr ⟨⟨hnamed, orderly_of_readValue hvalue⟩, hp⟩

theorem mismatch_ne_ok {α : Type} (expected s : Text) (result : α × Text) :
    (mismatch expected : Reader α) s ≠ .ok result := by
  intro h
  rw [mismatch] at h
  split at h <;> cases h

/-- A record that is read comes from members that are proper. -/
theorem exists_proper_of_parse {s : Text} {r : Record} (h : parse s = .ok r) :
    ∃ p : Partial, p.Proper ∧ p.finish = .ok r := by
  obtain ⟨rest, hread, -⟩ := readAll_eq_ok_iff.mp h
  have hempty : Partial.Proper {} := fun _ hm => nomatch hm
  rw [read] at hread
  split at hread
  · obtain ⟨⟨p, s'⟩, hmembers, hread⟩ := exists_of_bind_eq_ok hread
    obtain ⟨r', hfinish, hread⟩ := exists_of_bind_eq_ok hread
    cases hread
    exact ⟨p, invariant_readMembers keepsMembers_proper hempty hmembers, hfinish⟩
  · exact absurd hread (mismatch_ne_ok _ _ _)

theorem mem_others_of_finish {p : Partial} {r : Record} (h : p.finish = .ok r) {m : Text × Json}
    (hm : m ∈ r.extra.entries) : m ∈ p.others := by
  unfold Partial.finish at h
  split at h
  · cases h
  · cases h
  · cases h
    exact List.mem_reverse.mp (KeyMap.mem_of_mem_ofList hm)

/-- **The further fields of a record that has been read are orderly.** -/
theorem orderly_of_parse {s : Text} {r : Record} (h : parse s = .ok r) :
    r.fields.Orderly depthLimit := by
  obtain ⟨p, hproper, hfinish⟩ := exists_proper_of_parse h
  exact orderly_object_iff.mpr ⟨r.extra.sorted,
    fun m hm => (hproper m (mem_others_of_finish hfinish hm)).2⟩

theorem not_named_of_parse {s : Text} {r : Record} (h : parse s = .ok r) :
    ∀ m ∈ r.extra.entries, ¬IsNamed m.1 := by
  obtain ⟨p, hproper, hfinish⟩ := exists_proper_of_parse h
  exact fun m hm => (hproper m (mem_others_of_finish hfinish hm)).1

/-! ## Round trips -/

/-- The record that is left after it has been written and read so often. -/
def cycled : Nat → Record → Except ReadError Record
  | 0, r => .ok r
  | n + 1, r => do
    let s ← parse r.write
    cycled n s

theorem cycled_eq_ok {r : Record} (h : parse r.write = .ok r) (n : Nat) : cycled n r = .ok r := by
  induction n with
  | zero => rfl
  | succ n ih =>
    rw [cycled, h]
    exact ih

theorem not_named_iff {r : Record} : (∀ m ∈ r.extra.entries, ¬IsNamed m.1) ↔
    r.field? channelKey = none ∧ r.field? messageKey = none := by
  rw [field?, field?, KeyMap.find?, KeyMap.find?, Entries.find?_eq_none_iff,
    Entries.find?_eq_none_iff]
  constructor
  · intro h
    exact ⟨fun m hm hname => h m hm (.inl hname), fun m hm hname => h m hm (.inr hname)⟩
  · rintro ⟨hchannel, hmessage⟩ m hm (hname | hname)
    · exact hchannel m hm hname
    · exact hmessage m hm hname

/-- **Which records are read back.**  Of all records with objects in order, numbers that are integers
of 64 bits, and at most 127 containers inside one another, itself among them, just those are read
back whose further fields have names other than those of the channel and the message; the text of any
other record is refused, since such a member comes twice.  And a record that has been read from any
text, with such numbers, is the same however often it is written and read. -/
theorem parse_write :
    (∀ r : Record, r.fields.Orderly 127 → r.fields.Exact →
      (parse r.write = .ok r ↔ r.field? channelKey = none ∧ r.field? messageKey = none) ∧
      (parse r.write ≠ .ok r → ∃ key, IsNamed key ∧ r.field? key ≠ none ∧
        parse r.write = .error (.shape (.duplicateField key)))) ∧
    ∀ s r, parse s = .ok r → r.fields.Exact → ∀ n, cycled n r = .ok r := by
  refine ⟨fun r horderly hexact => ?_, fun s r hparse hexact n => ?_⟩
  · by_cases hnamed : ∃ m ∈ r.extra.entries, IsNamed m.1
    · obtain ⟨m, hm, hname, herror⟩ := exists_parse_write_eq_error horderly hexact hnamed
      have hne : parse r.write ≠ .ok r := by
        rw [herror]
        exact fun h => nomatch h
      have hfields : ¬(r.field? channelKey = none ∧ r.field? messageKey = none) :=
        fun h => not_named_iff.mpr h m hm hname
      refine ⟨⟨fun h => absurd h hne, fun h => absurd h hfields⟩, fun _ => ?_⟩
      exact ⟨m.1, hname, fun hnone => Entries.find?_eq_none_iff.mp hnone m hm rfl, herror⟩
    · have hnot : ∀ m ∈ r.extra.entries, ¬IsNamed m.1 :=
        fun m hm hname => hnamed ⟨m, hm, hname⟩
      have hread : parse r.write = .ok r := parse_write_of_not_named horderly hexact hnot
      exact ⟨⟨fun _ => not_named_iff.mp hnot, fun _ => hread⟩, fun h => absurd hread h⟩
  · exact cycled_eq_ok (parse_write_of_not_named (orderly_of_parse hparse) hexact
      (not_named_of_parse hparse)) n

/-- A record with fields that are nested, escaped and as large as they may be. -/
def nested : Record :=
  (({ channel := "a\n".toList, message := "\"\\".toList } : Record).withField "z".toList
    (.object [("k".toList, .array [.number (.int (-1)), .null, .string ['\x01', 'é']])])).withField
      "n".toList (.number (.int 18446744073709551615))

/-- It is read back, also after three cycles; with a further field that is named as the message it is
not. -/
theorem parse_write_nested :
    parse nested.write = .ok nested ∧ cycled 3 nested = .ok nested ∧
    ∃ key, IsNamed key ∧ parse (nested.withField messageKey .null).write =
      .error (.shape (.duplicateField key)) := by
  have hexact : nested.fields.Exact := by decide
  have hread : parse nested.write = .ok nested :=
    (parse_write.1 nested (by decide) hexact).1.mpr ⟨by decide, by decide⟩
  obtain ⟨hiff, hother⟩ := parse_write.1 (nested.withField messageKey .null) (by decide) (by decide)
  have hnot : parse (nested.withField messageKey .null).write ≠
      .ok (nested.withField messageKey .null) := by
    intro h
    exact absurd (hiff.mp h).2 (by decide)
  obtain ⟨key, hname, -, herror⟩ := hother hnot
  exact ⟨hread, parse_write.2 _ nested hread hexact 3, key, hname, herror⟩

end Switchboard.Record
