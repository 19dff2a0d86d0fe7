import Switchboard.Proofs.Json.Members
import Switchboard.Proofs.Record.RoundTrip

/-!
# The members of a record

A text is read as a record iff it is that of an object in which the channel and the message each
come once and are strings.  Of any other member the last of its name is kept.

* `Record.Has`: a record has just the members of an object.
* `Record.Partial.add`: one member more, as a value.
* `Record.parse_eq_foldlM`: reading a record is adding its members one after the other.
* `Record.parse_eq_ok_iff_has`: which texts are records, and which ones.
-/

namespace Switchboard.Record

open Json Entries

variable {p q : Partial} {key : Text} {v : Json} {m : Text × Json} {ms : List (Text × Json)}
  {r : Record}

instance (key : Text) : Decidable (IsNamed key) :=
  inferInstanceAs (Decidable (key = channelKey ∨ key = messageKey))

/-- The channel and the message come once and are strings, and under every other name the record has
the last of its values. -/
structure Has (r : Record) (ms : List (Text × Json)) : Prop where
  channel : valuesOf channelKey ms = [.string r.channel]
  message : valuesOf messageKey ms = [.string r.message]
  field?_eq : ∀ key, r.field? key = if IsNamed key then none else (valuesOf key ms).getLast?

/-! ## One member after the other -/

/-- The place of the channel or of the message. -/
def Partial.slot (p : Partial) (key : Text) : Option Text :=
  if key = channelKey then p.channel else p.message

/-- The members with another text in the place of the channel or of the message. -/
def Partial.withSlot (p : Partial) (key : Text) (slot : Option Text) : Partial :=
  if key = channelKey then { p with channel := slot } else { p with message := slot }

/-- Puts a value in a place, which takes one text. -/
def fill (key : Text) (slot : Option Text) (v : Json) : Except ReadError (Option Text) :=
  match slot with
  | some _ => .error (.shape (.duplicateField key))
  | none => some <$> v.text

/-- One member more. -/
def Partial.add (p : Partial) (m : Text × Json) : Except ReadError Partial :=
  if IsNamed m.1 then p.withSlot m.1 <$> fill m.1 (p.slot m.1) m.2
  else .ok { p with others := m :: p.others }

theorem readMember_of_slot_eq_some {t : Text} (h : IsNamed key) (hslot : p.slot key = some t) :
    Record.readMember p key = .error (.shape (.duplicateField key)) := by
  obtain rfl | rfl := h
  · rw [Record.readMember, if_pos rfl, show p.channel = some t from hslot]
  · rw [Record.readMember, if_neg (by decide), if_pos rfl, show p.message = some t from hslot]

theorem readMember_of_slot_eq_none (h : IsNamed key) (hslot : p.slot key = none) :
    Record.readMember p key = .ok fun s =>
      (fun (t, r) => (p.withSlot key (some t), r)) <$> readString s := by
  obtain rfl | rfl := h
  · exact readMember_channelKey hslot
  · exact readMember_messageKey hslot

/-- Where a record takes a text it reads a string, and elsewhere a value. -/
theorem follows_add : Follows (readValue (depthLimit - 1)) Record.readMember Partial.add := by
  intro p key s v rest h
  rw [Partial.add]
  by_cases hnamed : IsNamed key
  · rw [if_pos hnamed]
    cases hslot : p.slot key with
    | some t =>
      rw [readMember_of_slot_eq_some hnamed hslot]
      rfl
    | none =>
      rw [readMember_of_slot_eq_none hnamed hslot]
      show (fun x : Text × Text => _) <$> readString s = _
      rw [readString_of_readValue h, fill]
      cases v.text <;> rfl
  · rw [if_neg hnamed, readMember_of_not_isNamed hnamed]
    show (fun x : Json × Text => _) <$> readValue (depthLimit - 1) s = _
    rw [h]
    rfl

/-- **Reading a record is adding its members one after the other.** -/
theorem parse_eq_foldlM {s : Text} (h : parseMembers s = .ok ms) :
    parse s = ms.foldlM Partial.add {} >>= Partial.finish := by
  obtain ⟨body, rest, hs, hms, hend⟩ := parseMembers_eq_ok_iff.mp h
  refine readAll_of_end ?_ hend
  rw [read]
  simp only [hs]
  rw [readMembers_of_follows follows_add hms]
  cases ms.foldlM Partial.add {} with
  | error e => rfl
  | ok p =>
    show (do return (← p.finish, rest)) = (·, rest) <$> p.finish
    cases p.finish <;> rfl

/-! ## Places for one text -/

/-- The text in a place, as a list of values. -/
def taken (slot : Option Text) : List Json := slot.toList.map .string

section Slots

variable {slot slot' : Option Text} {vs vs' : List Json}

theorem taken_inj : taken slot = taken slot' ↔ slot = slot' := by
  cases slot <;> cases slot' <;> simp [taken]

/-- A value is put in a place iff with it there is no more than one text. -/
theorem fill_eq_ok_iff : fill key slot v = .ok slot' ↔ taken slot ++ [v] = taken slot' := by
  cases slot with
  | some t => cases slot' <;> simp [fill, taken]
  | none => cases v <;> cases slot' <;> simp [fill, taken, text, Functor.map, Except.map]

theorem exists_taken_of_append_eq (h : vs ++ vs' = taken slot) : ∃ slot', vs = taken slot' := by
  cases vs with
  | nil => exact ⟨none, rfl⟩
  | cons v vs =>
    refine ⟨slot, ?_⟩
    cases slot with
    | none => cases h
    | some t =>
      obtain ⟨hv, hrest⟩ := List.cons.inj h
      rw [hv, (List.append_eq_nil_iff.mp hrest).1]
      rfl

end Slots

@[simp] theorem slot_withSlot_self (p : Partial) (key : Text) (slot : Option Text) :
    (p.withSlot key slot).slot key = slot := by
  rw [Partial.withSlot, Partial.slot]
  split <;> rfl

theorem slot_withSlot_of_ne {key' : Text} (hkey : IsNamed key) (hkey' : IsNamed key')
    (h : key' ≠ key) (p : Partial) (slot : Option Text) :
    (p.withSlot key slot).slot key' = p.slot key' := by
  obtain rfl | rfl := hkey <;> obtain rfl | rfl := hkey'
  · exact absurd rfl h
  · rfl
  · rfl
  · exact absurd rfl h

@[simp] theorem others_withSlot (p : Partial) (key : Text) (slot : Option Text) :
    (p.withSlot key slot).others = p.others := by
  rw [Partial.withSlot]
  split <;> rfl

theorem Partial.ext_slot (hslot : ∀ key, IsNamed key → p.slot key = q.slot key)
    (hothers : p.others = q.others) : p = q := by
  have hchannel : p.channel = q.channel := hslot channelKey (.inl rfl)
  have hmessage : p.message = q.message := hslot messageKey (.inr rfl)
  cases p
  cases q
  cases hchannel
  cases hmessage
  cases hothers
  rfl

/-! ## What has been taken -/

/-- What has been taken before and what is in the members make what has been taken behind them. -/
structure Takes (p : Partial) (ms : List (Text × Json)) (q : Partial) : Prop where
  named : ∀ key, IsNamed key → taken (p.slot key) ++ valuesOf key ms = taken (q.slot key)
  others : q.others = (ms.filter fun m => ¬IsNamed m.1).reverse ++ p.others

theorem takes_nil_iff : Takes p [] q ↔ p = q := by
  constructor
  · rintro ⟨hnamed, hothers⟩
    refine Partial.ext_slot (fun key hkey => ?_) hothers.symm
    have hslot := hnamed key hkey
    rw [valuesOf_nil, List.append_nil] at hslot
    exact taken_inj.mp hslot
  · rintro rfl
    exact ⟨fun key _ => List.append_nil _, rfl⟩

theorem takes_append_iff {ms' : List (Text × Json)} :
    Takes p (ms ++ ms') q ↔ ∃ p', Takes p ms p' ∧ Takes p' ms' q := by
  constructor
  · rintro ⟨hnamed, hothers⟩
    have hslots : ∀ key, IsNamed key →
        ∃ slot, taken (p.slot key) ++ valuesOf key ms = taken slot := by
      intro key hkey
      have hslot := hnamed key hkey
      rw [valuesOf_append, ← List.append_assoc] at hslot
      exact exists_taken_of_append_eq hslot
    -- the members in between have what the first part fills
    obtain ⟨channel, hchannel⟩ := hslots channelKey (.inl rfl)
    obtain ⟨message, hmessage⟩ := hslots messageKey (.inr rfl)
    let p' : Partial :=
      { channel, message, others := (ms.filter fun m => ¬IsNamed m.1).reverse ++ p.others }
    have hp' : ∀ key, IsNamed key →
        taken (p.slot key) ++ valuesOf key ms = taken (p'.slot key) := by
      rintro key (rfl | rfl)
      · exact hchannel
      · exact hmessage
    refine ⟨p', ⟨hp', rfl⟩, ⟨fun key hkey => ?_, ?_⟩⟩
    · rw [← hp' key hkey, List.append_assoc, ← valuesOf_append]
      exact hnamed key hkey
    · rw [hothers, List.filter_append, List.reverse_append, List.append_assoc]
  · rintro ⟨p', h, h'⟩
    refine ⟨fun key hkey => ?_, ?_⟩
    · rw [valuesOf_append, ← List.append_assoc, h.named key hkey, h'.named key hkey]
    · rw [h'.others, h.others, List.filter_append, List.reverse_append, List.append_assoc]

theorem takes_of_isNamed_iff (h : IsNamed key) : Takes p [(key, v)] q ↔
    ∃ slot, fill key (p.slot key) v = .ok slot ∧ p.withSlot key slot = q := by
  have hother : ∀ {key'}, key' ≠ key → valuesOf key' [(key, v)] = [] :=
    fun hne => valuesOf_cons_of_ne (Ne.symm hne) v []
  have hfilter : [(key, v)].filter (fun m => ¬IsNamed m.1) = [] := by simp [h]
  constructor
  · rintro ⟨hnamed, hothers⟩
    have hslot := hnamed key h
    rw [valuesOf_cons_self, valuesOf_nil] at hslot
    refine ⟨q.slot key, fill_eq_ok_iff.mpr hslot, Partial.ext_slot (fun key' hkey' => ?_) ?_⟩
    · by_cases heq : key' = key
      · rw [heq, slot_withSlot_self]
      · have hkept := hnamed key' hkey'
        rw [hother heq, List.append_nil] at hkept
        rw [slot_withSlot_of_ne h hkey' heq, taken_inj.mp hkept]
    · rw [others_withSlot, hothers, hfilter]
      rfl
  · rintro ⟨slot, hfill, rfl⟩
    refine ⟨fun key' hkey' => ?_, ?_⟩
    · by_cases heq : key' = key
      · rw [heq, slot_withSlot_self, valuesOf_cons_self, valuesOf_nil]
        exact fill_eq_ok_iff.mp hfill
      · rw [hother heq, List.append_nil, slot_withSlot_of_ne h hkey' heq]
    · rw [others_withSlot, hfilter]
      rfl

theorem takes_of_not_isNamed_iff (h : ¬IsNamed key) :
    Takes p [(key, v)] q ↔ { p with others := (key, v) :: p.others } = q := by
  have hnone : ∀ key', IsNamed key' → valuesOf key' [(key, v)] = [] := by
    intro key' hkey'
    refine valuesOf_cons_of_ne ?_ v []
    rintro rfl
    exact h hkey'
  have hfilter : [(key, v)].filter (fun m => ¬IsNamed m.1) = [(key, v)] := by simp [h]
  constructor
  · rintro ⟨hnamed, hothers⟩
    refine Partial.ext_slot (fun key' hkey' => ?_) ?_
    · have hkept := hnamed key' hkey'
      rw [hnone key' hkey', List.append_nil] at hkept
      exact taken_inj.mp hkept
    · rw [hothers, hfilter]
      rfl
  · rintro rfl
    refine ⟨fun key' hkey' => ?_, ?_⟩
    · rw [hnone key' hkey', List.append_nil]
      rfl
    · rw [hfilter]
      rfl

theorem add_eq_ok_iff : p.add m = .ok q ↔ Takes p [m] q := by
  obtain ⟨key, v⟩ := m
  rw [Partial.add]
  by_cases hnamed : IsNamed key
  · rw [if_pos hnamed, map_eq_ok_iff, takes_of_isNamed_iff hnamed]
  · rw [if_neg hnamed, takes_of_not_isNamed_iff hnamed]
    exact ⟨Except.ok.inj, congrArg Except.ok⟩

/-- **Members are taken iff there is a place for each of them.** -/
theorem foldlM_add_eq_ok_iff : ms.foldlM Partial.add p = .ok q ↔ Takes p ms q := by
  -- one member and the rest: what the first one leaves is where the others start
  induction ms generalizing p with
  | nil =>
    rw [takes_nil_iff]
    exact ⟨Except.ok.inj, congrArg Except.ok⟩
  | cons m ms ih =>
    rw [List.foldlM_cons, ← List.singleton_append, takes_append_iff]
    constructor
    · intro h
      obtain ⟨p', hadd, hrest⟩ := exists_of_bind_eq_ok h
      exact ⟨p', add_eq_ok_iff.mp hadd, ih.mp hrest⟩
    · rintro ⟨p', hadd, hrest⟩
      rw [add_eq_ok_iff.mpr hadd]
      exact ih.mpr hrest

/-! ## Records -/

theorem finish_eq_ok_iff : p.finish = .ok r ↔
    p.channel = some r.channel ∧ p.message = some r.message ∧
      r.extra = .ofList p.others.reverse := by
  obtain ⟨channel, message, others⟩ := p
  obtain ⟨channel', message', extra⟩ := r
  cases channel <;> cases message <;> simp [Partial.finish, eq_comm]

theorem valuesOf_filter (key : Text) (ms : List (Text × Json)) :
    valuesOf key (ms.filter fun m => ¬IsNamed m.1) =
      if IsNamed key then [] else valuesOf key ms := by
  rw [valuesOf, List.filter_filter]
  by_cases hnamed : IsNamed key
  · rw [if_pos hnamed, List.map_eq_nil_iff, List.filter_eq_nil_iff]
    rintro ⟨k, v⟩ - hkey
    simp only [Bool.and_eq_true, decide_eq_true_eq] at hkey
    exact hkey.2 (hkey.1 ▸ hnamed)
  · rw [if_neg hnamed, valuesOf]
    refine congrArg (List.map _) (List.filter_congr fun m _ => ?_)
    by_cases hkey : m.1 = key
    · simp [hkey, hnamed]
    · simp [hkey]

theorem find?_ofList_filter (key : Text) (ms : List (Text × Json)) :
    (KeyMap.ofList (ms.filter fun m => ¬IsNamed m.1)).find? key =
      if IsNamed key then none else (valuesOf key ms).getLast? := by
  rw [KeyMap.find?_ofList, valuesOf_filter]
  split <;> rfl

/-- **The members make a record iff it has them.** -/
theorem foldlM_finish_eq_ok_iff :
    ms.foldlM Partial.add {} >>= Partial.finish = .ok r ↔ r.Has ms := by
  constructor
  · intro h
    obtain ⟨q, hadd, hfinish⟩ := exists_of_bind_eq_ok h
    obtain ⟨hnamed, hothers⟩ := foldlM_add_eq_ok_iff.mp hadd
    obtain ⟨hchannel, hmessage, hextra⟩ := finish_eq_ok_iff.mp hfinish
    have hslotc : valuesOf channelKey ms = taken q.channel := hnamed channelKey (.inl rfl)
    have hslotm : valuesOf messageKey ms = taken q.message := hnamed messageKey (.inr rfl)
    rw [hchannel] at hslotc
    rw [hmessage] at hslotm
    refine ⟨hslotc, hslotm, fun key => ?_⟩
    rw [field?, hextra, hothers, List.reverse_append, List.reverse_reverse]
    exact find?_ofList_filter key ms
  · intro h
    let q : Partial :=
      { channel := some r.channel, message := some r.message,
        others := (ms.filter fun m => ¬IsNamed m.1).reverse }
    have hadd : ms.foldlM Partial.add {} = .ok q := by
      refine foldlM_add_eq_ok_iff.mpr ⟨?_, (List.append_nil _).symm⟩
      rintro key (rfl | rfl)
      · exact h.channel
      · exact h.message
    have hextra : r.extra = .ofList q.others.reverse := by
      refine KeyMap.ext_of_find? fun key => ?_
      rw [List.reverse_reverse, find?_ofList_filter]
      exact h.field?_eq key
    rw [hadd]
    exact finish_eq_ok_iff.mpr ⟨rfl, rfl, hextra⟩

/-! ## Refusals -/

/-- Nothing is refused but for its shape. -/
def RefusesShapes {α : Type} (x : Except ReadError α) : Prop :=
  ∀ e, x = .error e → ∃ shape, e = .shape shape

section Refusals

variable {α β : Type} {x : Except ReadError α}

theorem refusesShapes_ok (a : α) : RefusesShapes (.ok a) := fun _ h => nomatch h

theorem refusesShapes_shape (shape : ShapeError) :
    RefusesShapes (.error (.shape shape) : Except ReadError α) :=
  fun _ h => ⟨shape, (Except.error.inj h).symm⟩

theorem RefusesShapes.bind (h : RefusesShapes x) {f : α → Except ReadError β}
    (hf : ∀ a, RefusesShapes (f a)) : RefusesShapes (x >>= f) := by
  cases x with
  | error e =>
    obtain ⟨shape, rfl⟩ := h e rfl
    exact refusesShapes_shape shape
  | ok a => exact hf a

theorem RefusesShapes.map (h : RefusesShapes x) (f : α → β) : RefusesShapes (f <$> x) := by
  cases x with
  | error e =>
    obtain ⟨shape, rfl⟩ := h e rfl
    exact refusesShapes_shape shape
  | ok a => exact refusesShapes_ok (f a)

theorem refusesShapes_fill (key : Text) (slot : Option Text) (v : Json) :
    RefusesShapes (fill key slot v) := by
  cases slot with
  | some t => exact refusesShapes_shape _
  | none =>
    refine RefusesShapes.map ?_ some
    cases v with
    | string t => exact refusesShapes_ok t
    | _ => exact refusesShapes_shape _

theorem refusesShapes_add (p : Partial) (m : Text × Json) : RefusesShapes (p.add m) := by
  rw [Partial.add]
  split
  · exact (refusesShapes_fill _ _ _).map _
  · exact refusesShapes_ok _

theorem refusesShapes_foldlM (p : Partial) (ms : List (Text × Json)) :
    RefusesShapes (ms.foldlM Partial.add p) := by
  induction ms generalizing p with
  | nil => exact refusesShapes_ok p
  | cons m ms ih =>
    rw [List.foldlM_cons]
    exact (refusesShapes_add p m).bind ih

theorem refusesShapes_finish (p : Partial) : RefusesShapes p.finish := by
  rw [Partial.finish]
  split
  · exact refusesShapes_shape _
  · exact refusesShapes_shape _
  · exact refusesShapes_ok _

end Refusals

/-- What is no object is named in the error. -/
theorem parse_of_members?_eq_none {s : Text} (h : Json.parse s = .ok v) (hv : v.members? = none) :
    parse s = .error (.shape (.wrongType v.found "struct ChatMessage".toList)) := by
  obtain ⟨rest, hvalue, -⟩ := readAll_eq_ok_iff.mp h
  have hread : read s = .error (.shape (.wrongType v.found "struct ChatMessage".toList)) := by
    rw [read]
    split
    · next body hs => exact absurd hs (ne_brace_of_readValue hvalue hv body)
    · rw [mismatch_skipSpace, mismatch_of_readValue hvalue]
  rw [parse, readAll, hread]
  rfl

theorem exists_has_iff : (∃ r : Record, r.Has ms) ↔
    (∃ channel, valuesOf channelKey ms = [.string channel]) ∧
      ∃ message, valuesOf messageKey ms = [.string message] := by
  constructor
  · rintro ⟨r, h⟩
    exact ⟨⟨r.channel, h.channel⟩, ⟨r.message, h.message⟩⟩
  · rintro ⟨⟨channel, hchannel⟩, message, hmessage⟩
    exact ⟨{ channel, message, extra := .ofList (ms.filter fun m => ¬IsNamed m.1) },
      hchannel, hmessage, fun key => find?_ofList_filter key ms⟩

theorem refusesShapes_parse {s : Text} (h : Json.parse s = .ok v) : RefusesShapes (parse s) := by
  obtain ⟨ms, hms, -⟩ | hv := parse_cases h
  · rw [parse_eq_foldlM hms]
    exact (refusesShapes_foldlM _ _).bind refusesShapes_finish
  · rw [parse_of_members?_eq_none h hv]
    exact refusesShapes_shape _

/-- **Which texts are records.**  Let a text be that of a value.  It has members, with as many of
one name as it likes, iff the value is an object.  It is read as a record iff just one of them is
the channel, just one is the message, and both are strings; the record has these, and of the members
of any other name the last.  If it is no record, its shape is refused. -/
theorem parse_eq_ok_iff_has {s : Text} (h : Json.parse s = .ok v) :
    ((∃ ms, IsObject s ms) ↔ ∃ members, v = .object members) ∧
    (∀ ms, IsObject s ms → v = .ofMembers ms ∧ (∀ r, parse s = .ok r ↔ r.Has ms) ∧
      ((∃ r, parse s = .ok r) ↔ (∃ channel, valuesOf channelKey ms = [.string channel]) ∧
        ∃ message, valuesOf messageKey ms = [.string message])) ∧
    ((∀ members, v ≠ .object members) → ∀ r, parse s ≠ .ok r) ∧
    ((∀ r, parse s ≠ .ok r) → ∃ shape, parse s = .error (.shape shape)) := by
  have hvalue : ∀ ms, IsObject s ms → v = .ofMembers ms := by
    intro ms hobject
    have hms := (parseMembers_eq_ok_iff_isObject h).mpr hobject
    exact Except.ok.inj (h.symm.trans (parse_of_parseMembers hms))
  have hhas : ∀ ms, IsObject s ms → ∀ r, parse s = .ok r ↔ r.Has ms := by
    intro ms hobject r
    have hms := (parseMembers_eq_ok_iff_isObject h).mpr hobject
    rw [parse_eq_foldlM hms, foldlM_finish_eq_ok_iff]
  refine ⟨⟨?_, ?_⟩, ?_, ?_, ?_⟩
  · rintro ⟨ms, hobject⟩
    exact ⟨_, hvalue ms hobject⟩
  · rintro ⟨members, rfl⟩
    obtain ⟨ms, hms, -⟩ | hnone := parse_cases h
    · exact ⟨ms, isObject_of_parseMembers hms⟩
    · cases hnone
  · intro ms hobject
    refine ⟨hvalue ms hobject, hhas ms hobject, ?_⟩
    simp only [hhas ms hobject, exists_has_iff]
  · intro hno r hr
    obtain ⟨ms, -, rfl⟩ | hnone := parse_cases h
    · exact hno _ rfl
    · rw [parse_of_members?_eq_none h hnone] at hr
      cases hr
  · intro hr
    cases hparse : parse s with
    | error e =>
      obtain ⟨shape, rfl⟩ := refusesShapes_parse h e hparse
      exact ⟨shape, rfl⟩
    | ok r => exact absurd hparse (hr r)

/-- A further field comes twice. -/
def repeated : List (Text × Json) :=
  [("a".toList, .null), (messageKey, .string "y".toList), (channelKey, .string "x".toList),
    ("a".toList, .bool true)]

/-- With a further field that comes twice there is a record, which has the last; with the message
twice there is none. -/
theorem parse_eq_ok_iff_has_repeated :
    (∃ r, parse (object repeated).write = .ok r ∧ r.channel = "x".toList ∧
      r.field? "a".toList = some (.bool true)) ∧
    ∃ shape, parse (object ((messageKey, .null) :: repeated)).write = .error (.shape shape) := by
  have hms : parseMembers (object repeated).write = .ok repeated := parseMembers_write (by decide)
  have htwice : parseMembers (object ((messageKey, .null) :: repeated)).write =
      .ok ((messageKey, .null) :: repeated) := parseMembers_write (by decide)
  obtain ⟨-, hmembers, -, -⟩ := parse_eq_ok_iff_has (parse_of_parseMembers hms)
  obtain ⟨-, hhas, hexists⟩ := hmembers repeated (isObject_of_parseMembers hms)
  obtain ⟨-, hmembers, -, hrefused⟩ := parse_eq_ok_iff_has (parse_of_parseMembers htwice)
  obtain ⟨-, -, htwo⟩ := hmembers _ (isObject_of_parseMembers htwice)
  constructor
  · obtain ⟨r, hr⟩ := hexists.mpr ⟨⟨_, rfl⟩, ⟨_, rfl⟩⟩
    have h := (hhas r).mp hr
    have hchannel : [Json.string "x".toList] = [.string r.channel] := h.channel
    exact ⟨r, hr, (Json.string.inj (List.cons.inj hchannel).1).symm, h.field?_eq _⟩
  · refine hrefused fun r hr => ?_
    obtain ⟨-, t, ht⟩ := htwo.mp ⟨r, hr⟩
    cases ht

end Switchboard.Record
