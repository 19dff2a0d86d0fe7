import Switchboard.Json.Read
import Switchboard.Proofs.Json.Scalar

/-!
# Values are read back

A value whose objects are in order and whose numbers are integers is read back from its text, if it
is not nested too deep.  For objects this is said of any reader of members, since not all objects are
read as values.

* `Json.Leads`: what reading written members one after the other comes to.
* `Json.readMembers_write`: an object is read as its members are.
* `Json.readValue_write`: values.
-/

namespace Switchboard.Json

/-! ## Written values -/

theorem writeString_append (s rest : Text) :
    writeString s ++ rest = '"' :: (s.flatMap writeChar ++ '"' :: rest) := by
  simp only [writeString, List.cons_append, List.append_assoc, List.nil_append]

theorem write_array_append (items : List Json) (rest : Text) :
    (array items).write ++ rest = '[' :: (writeItems items ++ ']' :: rest) := by
  simp only [write, List.cons_append, List.append_assoc, List.nil_append]

theorem write_object_append (members : List (Text × Json)) (rest : Text) :
    (object members).write ++ rest = '\x7b' :: (writeMembers members ++ '\x7d' :: rest) := by
  simp only [write, List.cons_append, List.append_assoc, List.nil_append]

/-- The text of a member. -/
def writeMember (m : Text × Json) : Text := writeString m.1 ++ ':' :: m.2.write

theorem writeMember_append (key : Text) (v : Json) (rest : Text) :
    writeMember (key, v) ++ rest =
      '"' :: (key.flatMap writeChar ++ '"' :: ':' :: (v.write ++ rest)) := by
  rw [writeMember, List.append_assoc, writeString_append, List.cons_append]

theorem writeItems_cons (v : Json) (vs : List Json) :
    writeItems (v :: vs) = v.write ++ vs.flatMap fun w => ',' :: w.write := by
  induction vs generalizing v with
  | nil => rw [writeItems, List.flatMap_nil, List.append_nil]
  | cons w ws ih =>
    have hcomma : writeItems (v :: w :: ws) = v.write ++ ',' :: writeItems (w :: ws) := rfl
    rw [hcomma, ih, List.flatMap_cons, List.cons_append]

theorem writeMembers_cons (m : Text × Json) (ms : List (Text × Json)) :
    writeMembers (m :: ms) = writeMember m ++ ms.flatMap fun n => ',' :: writeMember n := by
  induction ms generalizing m with
  | nil => rw [writeMembers, List.flatMap_nil, List.append_nil, writeMember]
  | cons n ns ih =>
    have hcomma : writeMembers (m :: n :: ns) = writeMember m ++ ',' :: writeMembers (n :: ns) := by
      simp only [writeMembers, writeMember, List.append_assoc, List.cons_append]
    rw [hcomma, ih, List.flatMap_cons, List.cons_append]

theorem atEnd_bracket (rest : Text) : AtEnd (']' :: rest) :=
  fun _ h => .inr (.inl (Option.some.inj h).symm)

theorem atEnd_brace (rest : Text) : AtEnd ('\x7d' :: rest) :=
  fun _ h => .inr (.inr (Option.some.inj h).symm)

/-- Behind a value of a container there is a comma, or what is behind all of them. -/
theorem AtEnd.behind {α : Type} {rest : Text} (h : AtEnd rest) (f : α → Text) (xs : List α) :
    AtEnd ((xs.flatMap fun x => ',' :: f x) ++ rest) := by
  cases xs with
  | nil => exact h
  | cons x xs => exact fun _ hc => .inl (Option.some.inj hc).symm

theorem skipSpace_cons {c : Char} (h : isSpace c = false) (cs : Text) :
    skipSpace (c :: cs) = c :: cs := by
  rw [skipSpace, List.dropWhile_cons, h]
  rfl

theorem length_le_flatMap {α : Type} (f : α → Text) (xs : List α) :
    xs.length ≤ (xs.flatMap fun x => ',' :: f x).length := by
  induction xs with
  | nil => exact Nat.le_refl 0
  | cons x xs ih =>
    rw [List.flatMap_cons, List.length_append, List.length_cons, List.length_cons]
    omega

theorem exists_writeInt_eq (i : Int) :
    ∃ c cs, (Number.int i).write = c :: cs ∧ (c = '-' ∨ c.isDigit = true) := by
  by_cases hneg : i < 0
  · rw [Number.write, if_pos hneg]
    exact ⟨'-', _, rfl, .inl rfl⟩
  · obtain ⟨c, cs, hds, hc⟩ := exists_decimalDigits_eq i.natAbs
    rw [Number.write, if_neg hneg, hds]
    exact ⟨c, cs, rfl, .inr hc⟩

/-- The first character of a number is none that means something else. -/
theorem ne_of_startsNumber {c d : Char} (hc : c = '-' ∨ c.isDigit = true) (hd : d ≠ '-')
    (hdigit : d.isDigit = false) : c ≠ d := by
  rintro rfl
  obtain hc | hc := hc
  · exact hd hc
  · rw [hdigit] at hc
    cases hc

theorem isSpace_of_startsNumber {c : Char} (h : c = '-' ∨ c.isDigit = true) :
    isSpace c = false := by
  simp only [isSpace, Bool.or_eq_false_iff, beq_eq_false_iff_ne]
  refine ⟨⟨⟨?_, ?_⟩, ?_⟩, ?_⟩ <;> exact ne_of_startsNumber h (by decide) (by decide)

/-- A written value starts neither with a blank nor with a closing bracket. -/
theorem exists_write_eq {v : Json} (h : v.Exact) :
    ∃ c cs, v.write = c :: cs ∧ isSpace c = false ∧ c ≠ ']' := by
  cases v with
  | null => exact ⟨'n', _, rfl, rfl, by decide⟩
  | bool b =>
    cases b with
    | true => exact ⟨'t', _, rfl, rfl, by decide⟩
    | false => exact ⟨'f', _, rfl, rfl, by decide⟩
  | number n =>
    cases n with
    | int i =>
      obtain ⟨c, cs, hwrite, hc⟩ := exists_writeInt_eq i
      exact ⟨c, cs, hwrite, isSpace_of_startsNumber hc,
        ne_of_startsNumber hc (by decide) (by decide)⟩
    | float negative m => exact (exact_number_iff.mp h).elim
  | string s => exact ⟨'"', _, rfl, rfl, by decide⟩
  | array items => exact ⟨'[', _, rfl, rfl, by decide⟩
  | object members => exact ⟨'\x7b', _, rfl, rfl, by decide⟩

/-! ## Arrays -/

section Items

variable {item : Reader Json} {vs : List Json}

theorem moreItems_write
    (hitem : ∀ v ∈ vs, ∀ rest, AtEnd rest → item (v.write ++ rest) = .ok (v, rest)) {fuel : Nat}
    (hfuel : vs.length < fuel) (rest : Text) :
    moreItems item fuel ((vs.flatMap fun v => ',' :: v.write) ++ ']' :: rest) = .ok (vs, rest) := by
  induction vs generalizing fuel with
  | nil =>
    obtain ⟨fuel, rfl⟩ := Nat.exists_eq_succ_of_ne_zero (Nat.ne_of_gt hfuel)
    rfl
  | cons v vs ih =>
    obtain ⟨fuel, rfl⟩ : ∃ n, fuel = n + 1 := Nat.exists_eq_succ_of_ne_zero (by omega)
    have hv := hitem v List.mem_cons_self _ ((atEnd_bracket rest).behind write vs)
    have hvs := ih (fun w hw => hitem w (List.mem_cons_of_mem v hw)) (Nat.lt_of_succ_lt_succ hfuel)
    rw [List.flatMap_cons, List.append_assoc, List.cons_append, moreItems,
      skipSpace_cons (by decide)]
    simp only [hv, hvs, bind, Except.bind, pure, Except.pure]

/-- If all items are read back, so is an array. -/
theorem readItems_write
    (hitem : ∀ v ∈ vs, ∀ rest, AtEnd rest → item (v.write ++ rest) = .ok (v, rest))
    (hexact : ∀ v ∈ vs, v.Exact) (rest : Text) :
    readItems item (writeItems vs ++ ']' :: rest) = .ok (vs, rest) := by
  cases vs with
  | nil => rfl
  | cons v vs =>
    obtain ⟨c, cs, hwrite, hspace, hclose⟩ := exists_write_eq (hexact v List.mem_cons_self)
    let behind : Text := (vs.flatMap fun w => ',' :: w.write) ++ ']' :: rest
    have hv : item (c :: (cs ++ behind)) = .ok (v, behind) := by
      have hread := hitem v List.mem_cons_self _ ((atEnd_bracket rest).behind write vs)
      rw [hwrite] at hread
      exact hread
    have hfuel : vs.length < behind.length + 1 := by
      have hlength := length_le_flatMap write vs
      simp only [behind, List.length_append]
      omega
    have hvs : moreItems item (behind.length + 1) behind = .ok (vs, rest) :=
      moreItems_write (fun w hw => hitem w (List.mem_cons_of_mem v hw)) hfuel rest
    have hsplit : writeItems (v :: vs) ++ ']' :: rest = c :: (cs ++ behind) := by
      rw [writeItems_cons, hwrite, List.append_assoc, List.cons_append]
    rw [hsplit, readItems, skipSpace_cons hspace]
    split
    · next h => cases h
    · next h => exact absurd (List.cons.inj h).1 hclose
    · simp only [hv, hvs, bind, Except.bind, pure, Except.pure]

end Items

/-! ## Objects -/

/-- What reading written members one after the other comes to: each is read and changes the state, up
to the first one that is refused. -/
inductive Leads {σ : Type} (member : MemberReader σ) :
    σ → List (Text × Json) → Except ReadError σ → Prop
  | nil (state : σ) : Leads member state [] (.ok state)
  | cons {state next : σ} {m : Text × Json} {ms : List (Text × Json)} {result : Except ReadError σ}
      (h : ∀ rest, AtEnd rest →
        readMember member state (writeMember m ++ rest) = .ok (next, rest))
      (hrest : Leads member next ms result) : Leads member state (m :: ms) result
  | refused {state : σ} {m : Text × Json} {e : ReadError}
      (h : ∀ rest, AtEnd rest → readMember member state (writeMember m ++ rest) = .error e)
      (ms : List (Text × Json)) : Leads member state (m :: ms) (.error e)

section Members

variable {σ : Type} {member : MemberReader σ} {state next : σ} {ms : List (Text × Json)}
  {result : Except ReadError σ} {key : Text} {value : Reader σ} {v : Json} {e : ReadError}

theorem skipSpace_writeMember (m : Text × Json) (rest : Text) :
    skipSpace (writeMember m ++ rest) = writeMember m ++ rest := rfl

/-- Behind a comma a member is read, and then the others. -/
theorem moreMembers_comma (fuel : Nat) (state : σ) (m : Text × Json) (rest : Text) :
    moreMembers member (fuel + 1) state (',' :: (writeMember m ++ rest)) =
      readMember member state (writeMember m ++ rest) >>= fun p =>
        moreMembers member fuel p.1 p.2 := by
  rw [moreMembers, skipSpace_cons (by decide)]
  simp only [skipSpace_writeMember]

theorem moreMembers_write (h : Leads member state ms result) {fuel : Nat}
    (hfuel : ms.length < fuel) (rest : Text) :
    moreMembers member fuel state ((ms.flatMap fun m => ',' :: writeMember m) ++ '\x7d' :: rest) =
      (·, rest) <$> result := by
  induction h generalizing fuel with
  | nil state =>
    obtain ⟨fuel, rfl⟩ := Nat.exists_eq_succ_of_ne_zero (Nat.ne_of_gt hfuel)
    rfl
  | @cons state next m ms result hm hrest ih =>
    obtain ⟨fuel, rfl⟩ : ∃ n, fuel = n + 1 := Nat.exists_eq_succ_of_ne_zero (by omega)
    have hread := hm _ ((atEnd_brace rest).behind writeMember ms)
    rw [List.flatMap_cons, List.append_assoc, List.cons_append, moreMembers_comma, hread]
    exact ih (Nat.lt_of_succ_lt_succ hfuel)
  | @refused state m e hm ms =>
    obtain ⟨fuel, rfl⟩ : ∃ n, fuel = n + 1 := Nat.exists_eq_succ_of_ne_zero (by omega)
    have hread := hm _ ((atEnd_brace rest).behind writeMember ms)
    rw [List.flatMap_cons, List.append_assoc, List.cons_append, moreMembers_comma, hread]
    rfl

/-- **An object is read as its members are.** -/
theorem readMembers_write (h : Leads member state ms result) (rest : Text) :
    readMembers member state (writeMembers ms ++ '\x7d' :: rest) = (·, rest) <$> result := by
  cases ms with
  | nil =>
    cases h
    rfl
  | cons m ms =>
    let behind : Text := (ms.flatMap fun n => ',' :: writeMember n) ++ '\x7d' :: rest
    have hend : AtEnd behind := (atEnd_brace rest).behind writeMember ms
    have hsplit : writeMembers (m :: ms) ++ '\x7d' :: rest = writeMember m ++ behind := by
      rw [writeMembers_cons, List.append_assoc]
    have hfuel : ms.length < behind.length + 1 := by
      have hlength := length_le_flatMap writeMember ms
      simp only [behind, List.length_append]
      omega
    rw [hsplit, readMembers, skipSpace_writeMember]
    split
    · next h => cases h
    · next h => cases h
    · cases h with
      | @cons _ next _ _ _ hm hrest =>
        simp only [hm behind hend, bind, Except.bind]
        exact moreMembers_write hrest hfuel rest
      | refused hm =>
        simp only [hm behind hend, bind, Except.bind]
        rfl

theorem readMember_write (hmember : member state key = .ok value)
    (hvalue : ∀ rest, AtEnd rest → value (v.write ++ rest) = .ok (next, rest)) (rest : Text)
    (hrest : AtEnd rest) :
    readMember member state (writeMember (key, v) ++ rest) = .ok (next, rest) := by
  rw [writeMember_append, readMember]
  simp only [stringBody_writeString, hmember, bind, Except.bind]
  exact hvalue rest hrest

theorem readMember_refused (hmember : member state key = .error e) (rest : Text) :
    readMember member state (writeMember (key, v) ++ rest) = .error e := by
  rw [writeMember_append, readMember]
  simp only [stringBody_writeString, hmember, bind, Except.bind]

end Members

/-- Members that are kept are kept in order. -/
theorem leads_collectMember {value : Reader Json} {ms : List (Text × Json)}
    (h : ∀ m ∈ ms, ∀ rest, AtEnd rest → value (m.2.write ++ rest) = .ok (m.2, rest))
    (before : List (Text × Json)) :
    Leads (collectMember value) before ms (.ok (ms.reverse ++ before)) := by
  induction ms generalizing before with
  | nil => exact .nil before
  | cons m ms ih =>
    obtain ⟨hm, hms⟩ := List.forall_mem_cons.mp h
    rw [List.reverse_cons, List.append_assoc, List.singleton_append]
    refine .cons (readMember_write rfl fun rest hrest => ?_) (ih hms (m :: before))
    rw [hm rest hrest]
    rfl

/-! ## Values -/

section Values

variable {array object : Reader Json} {rest : Text}

theorem readHead_of_startsNumber {c : Char} (h : c = '-' ∨ c.isDigit = true) (cs : Text) :
    readHead array object (c :: cs) =
      (fun (n, r) => (.number n, r)) <$> readNumber (c :: cs) := by
  have hne : ∀ d, d ≠ '-' → d.isDigit = false → ∀ {ds}, c :: cs ≠ d :: ds := by
    intro d hd hdigit ds hcons
    exact ne_of_startsNumber h hd hdigit (List.cons.inj hcons).1
  rw [readHead, skipSpace_cons (isSpace_of_startsNumber h)]
  split
  · next hcons => cases hcons
  · next hcons => exact absurd hcons (hne 'n' (by decide) (by decide))
  · next hcons => exact absurd hcons (hne 't' (by decide) (by decide))
  · next hcons => exact absurd hcons (hne 'f' (by decide) (by decide))
  · next hcons => exact absurd hcons (hne '"' (by decide) (by decide))
  · next hcons => exact absurd hcons (hne '[' (by decide) (by decide))
  · next hcons => exact absurd hcons (hne '\x7b' (by decide) (by decide))
  · next hcons =>
    obtain ⟨rfl, rfl⟩ := List.cons.inj hcons
    rw [if_pos h]

/-- A value without containers is read back, whatever readers there are for containers. -/
theorem readHead_write {v : Json} (hscalar : v.nesting = 0) (hexact : v.Exact)
    (hrest : AtEnd rest) : readHead array object (v.write ++ rest) = .ok (v, rest) := by
  cases v with
  | null => rfl
  | bool b => cases b <;> rfl
  | number n =>
    have hn : n.Exact := exact_number_iff.mp hexact
    cases n with
    | int i =>
      have hread := readNumber_write hn hrest
      obtain ⟨c, cs, hwrite, hc⟩ := exists_writeInt_eq i
      rw [hwrite, List.cons_append] at hread
      rw [write, hwrite, List.cons_append, readHead_of_startsNumber hc, hread]
      rfl
    | float negative m => exact hn.elim
  | string s =>
    rw [write, writeString_append, readHead, skipSpace_cons (by decide)]
    simp only [stringBody_writeString]
    rfl
  | array items => cases hscalar
  | object members => cases hscalar

/-- **A value is read back from its text**, if it is orderly, its numbers are integers of 64 bits, and
what follows may follow a value. -/
theorem readValue_write {depth : Nat} {v : Json} (horderly : v.Orderly depth) (hexact : v.Exact)
    (hrest : AtEnd rest) : readValue depth (v.write ++ rest) = .ok (v, rest) := by
  induction depth generalizing v rest with
  | zero => exact readHead_write (Nat.le_zero.mp horderly.shallow) hexact hrest
  | succ depth ih =>
    cases v with
    | array items =>
      rw [orderly_array_iff] at horderly
      rw [exact_array_iff] at hexact
      have hitems := readItems_write (fun w hw _ => ih (horderly w hw) (hexact w hw)) hexact rest
      rw [write_array_append, readValue, readHead, skipSpace_cons (by decide)]
      simp only [hitems]
      rfl
    | object members =>
      rw [orderly_object_iff] at horderly
      rw [exact_object_iff] at hexact
      have hmembers := readMembers_write (leads_collectMember
        (fun m hm _ => ih (horderly.2 m hm) (hexact m hm)) []) rest
      rw [write_object_append, readValue, readHead, skipSpace_cons (by decide)]
      simp only [readAllMembers, hmembers]
      simp only [List.append_nil, Functor.map, Except.map, List.reverse_reverse, ofMembers,
        KeyMap.entries_ofList horderly.1]
    | _ => exact readHead_write rfl hexact hrest

end Values

end Switchboard.Json
