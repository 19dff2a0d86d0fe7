import Mathlib.Data.List.DropRight
import Switchboard.Proofs.Json.InOrder
import Switchboard.Proofs.Json.ReadBack

/-!
# Members in the order of the text

A text that is an object has its members, in the order of the text and with as many of one name as
it likes.  Every reader of objects goes over the same members: where their values are read, what it
makes of the object is what it makes of one member after the other.

* `Json.IsObject`: the members of a text; `IsObject.unique`: there are no others.
* `Json.parseMembers`: the members that are read (`parseMembers_eq_ok_iff_isObject`).
* `Json.Follows`, `Json.readMembers_of_follows`: a reader of members as a step on values.
* `Json.begins_of_readValue`: the first character says of what kind a value is.
* `Json.readString_of_readValue`, `Json.mismatch_of_readValue`: other shapes than the value has.
* `Json.parse_cases`, `Json.parseMembers_write`: which texts have members, and which ones.
-/

namespace Switchboard.Json

variable {σ α : Type}

/-- The members of a text that is an object, in the order of the text. -/
def parseMembers (s : Text) : Except ReadError (List (Text × Json)) :=
  readAll (fun s => match skipSpace s with
    | '\x7b' :: rest => readAllMembers (readValue (depthLimit - 1)) rest
    | _ => .error .syntaxError) s

/-! ## Whole texts -/

theorem readAll_of_end {reader : Reader α} {s rest : Text} {result : Except ReadError α}
    (h : reader s = (·, rest) <$> result) (hend : skipSpace rest = []) :
    readAll reader s = result := by
  cases result with
  | error e =>
    rw [readAll, h]
    rfl
  | ok a => exact readAll_eq_ok_iff.mpr ⟨rest, h, hend⟩

theorem parseMembers_eq_ok_iff {s : Text} {ms : List (Text × Json)} :
    parseMembers s = .ok ms ↔ ∃ body rest, skipSpace s = '\x7b' :: body ∧
      readAllMembers (readValue (depthLimit - 1)) body = .ok (ms, rest) ∧ skipSpace rest = [] := by
  rw [parseMembers, readAll_eq_ok_iff]
  constructor
  · rintro ⟨rest, hread, hend⟩
    split at hread
    · next body hbody => exact ⟨body, rest, hbody, hread, hend⟩
    · cases hread
  · rintro ⟨body, rest, hbody, hread, hend⟩
    refine ⟨rest, ?_, hend⟩
    simp only [hbody]
    exact hread

/-! ## Members of a text -/

/-- A member at the front of a text: a key in quotes, a colon, and a value. -/
inductive MemberAt (value : Reader Json) (s : Text) : Text × Json → Text → Prop
  | mk {body s₁ s₂ rest : Text} {key : Text} {v : Json} (hs : s = '"' :: body)
      (hkey : stringBody body = .ok (key, s₁)) (hcolon : skipSpace s₁ = ':' :: s₂)
      (hvalue : value s₂ = .ok (v, rest)) : MemberAt value s (key, v) rest

/-- Members that follow another one, up to the closing brace. -/
inductive MembersBehind (value : Reader Json) : Text → List (Text × Json) → Text → Prop
  | close {s rest : Text} (hs : skipSpace s = '\x7d' :: rest) : MembersBehind value s [] rest
  | comma {s s₁ s₂ rest : Text} {m : Text × Json} {ms : List (Text × Json)}
      (hs : skipSpace s = ',' :: s₁) (hm : MemberAt value (skipSpace s₁) m s₂)
      (hms : MembersBehind value s₂ ms rest) : MembersBehind value s (m :: ms) rest

/-- Members between two braces, from behind the first brace. -/
inductive MembersOf (value : Reader Json) (s : Text) : List (Text × Json) → Text → Prop
  | close {rest : Text} (hs : skipSpace s = '\x7d' :: rest) : MembersOf value s [] rest
  | first {s₁ rest : Text} {m : Text × Json} {ms : List (Text × Json)}
      (hm : MemberAt value (skipSpace s) m s₁) (hms : MembersBehind value s₁ ms rest) :
      MembersOf value s (m :: ms) rest

/-- The text is that of an object with these members, in this order. -/
def IsObject (s : Text) (ms : List (Text × Json)) : Prop :=
  ∃ body rest, skipSpace s = '\x7b' :: body ∧
    MembersOf (readValue (depthLimit - 1)) body ms rest ∧ skipSpace rest = []

section Unique

variable {value : Reader Json} {s rest rest' : Text} {m m' : Text × Json}
  {ms ms' : List (Text × Json)}

theorem MemberAt.unique (h : MemberAt value s m rest) (h' : MemberAt value s m' rest') :
    m = m' ∧ rest = rest' := by
  obtain ⟨hs, hkey, hcolon, hvalue⟩ := h
  obtain ⟨hs', hkey', hcolon', hvalue'⟩ := h'
  cases hs.symm.trans hs'
  cases hkey.symm.trans hkey'
  cases hcolon.symm.trans hcolon'
  cases hvalue.symm.trans hvalue'
  exact ⟨rfl, rfl⟩

theorem MemberAt.exists_quote (h : MemberAt value s m rest) : ∃ body, s = '"' :: body := by
  obtain ⟨hs, -, -, -⟩ := h
  exact ⟨_, hs⟩

theorem MembersBehind.unique (h : MembersBehind value s ms rest)
    (h' : MembersBehind value s ms' rest') : ms = ms' ∧ rest = rest' := by
  induction h generalizing ms' with
  | close hs =>
    cases h' with
    | close hs' =>
      cases hs.symm.trans hs'
      exact ⟨rfl, rfl⟩
    | comma hs' _ _ => cases hs.symm.trans hs'
  | comma hs hm _ ih =>
    cases h' with
    | close hs' => cases hs.symm.trans hs'
    | comma hs' hm' hms' =>
      cases hs.symm.trans hs'
      obtain ⟨rfl, rfl⟩ := hm.unique hm'
      obtain ⟨rfl, rfl⟩ := ih hms'
      exact ⟨rfl, rfl⟩

theorem MembersOf.unique (h : MembersOf value s ms rest) (h' : MembersOf value s ms' rest') :
    ms = ms' := by
  cases h with
  | close hs =>
    cases h' with
    | close hs' => rfl
    | first hm' _ =>
      obtain ⟨body, hquote⟩ := hm'.exists_quote
      cases hs.symm.trans hquote
  | first hm hms =>
    cases h' with
    | close hs' =>
      obtain ⟨body, hquote⟩ := hm.exists_quote
      cases hs'.symm.trans hquote
    | first hm' hms' =>
      obtain ⟨rfl, rfl⟩ := hm.unique hm'
      rw [(hms.unique hms').1]

/-- A text has no other members, and these in no other order. -/
theorem IsObject.unique (h : IsObject s ms) (h' : IsObject s ms') : ms = ms' := by
  obtain ⟨body, rest, hs, hms, -⟩ := h
  obtain ⟨body', rest', hs', hms', -⟩ := h'
  cases hs.symm.trans hs'
  exact hms.unique hms'

end Unique

/-! ## The members that are read -/

section Collected

variable {value : Reader Json} {before after : List (Text × Json)} {s rest : Text}

theorem memberAt_of_readMember
    (hread : readMember (collectMember value) before s = .ok (after, rest)) :
    ∃ m, after = m :: before ∧ MemberAt value s m rest := by
  rw [readMember.eq_def] at hread
  split at hread
  · obtain ⟨⟨key, s₁⟩, hkey, hread⟩ := exists_of_bind_eq_ok hread
    obtain ⟨read, hcollect, hread⟩ := exists_of_bind_eq_ok hread
    cases hcollect
    split at hread
    · cases hread
    · next s₂ hcolon =>
      obtain ⟨⟨v, r⟩, hvalue, heq⟩ := exists_of_map_eq_ok hread
      cases heq
      exact ⟨(key, v), rfl, .mk rfl hkey hcolon hvalue⟩
    · cases hread
  · cases hread
  · cases hread

theorem membersBehind_of_moreMembers {fuel : Nat}
    (hread : moreMembers (collectMember value) fuel before s = .ok (after, rest)) :
    ∃ ms : List (Text × Json), after = ms.reverse ++ before ∧ MembersBehind value s ms rest ∧
      ms.length < fuel := by
  induction fuel generalizing before s with
  | zero => cases hread
  | succ fuel ih =>
    rw [moreMembers] at hread
    split at hread
    · cases hread
    · next hclose =>
      cases hread
      exact ⟨[], rfl, .close hclose, Nat.succ_pos fuel⟩
    · next s₁ hcomma =>
      obtain ⟨⟨collected, s₂⟩, hfirst, hmore⟩ := exists_of_bind_eq_ok hread
      obtain ⟨m, rfl, hm⟩ := memberAt_of_readMember hfirst
      obtain ⟨ms, rfl, hms, hlength⟩ := ih hmore
      refine ⟨m :: ms, ?_, .comma hcomma hm hms, Nat.succ_lt_succ hlength⟩
      rw [List.reverse_cons, List.append_assoc, List.singleton_append]
    · cases hread

theorem exists_of_readAllMembers {ms : List (Text × Json)}
    (hread : readAllMembers value s = .ok (ms, rest)) :
    (ms = [] ∧ skipSpace s = '\x7d' :: rest) ∨
      ∃ m s₁ ms₁, ms = m :: ms₁ ∧ MemberAt value (skipSpace s) m s₁ ∧
        MembersBehind value s₁ ms₁ rest ∧ ms₁.length < s₁.length + 1 := by
  obtain ⟨⟨collected, r⟩, hread, heq⟩ := exists_of_map_eq_ok hread
  cases heq
  rw [readMembers] at hread
  split at hread
  · cases hread
  · next hclose =>
    cases hread
    exact .inl ⟨rfl, hclose⟩
  · obtain ⟨⟨first, s₁⟩, hfirst, hmore⟩ := exists_of_bind_eq_ok hread
    obtain ⟨m, rfl, hm⟩ := memberAt_of_readMember hfirst
    obtain ⟨ms, rfl, hms, hlength⟩ := membersBehind_of_moreMembers hmore
    refine .inr ⟨m, s₁, ms, ?_, hm, hms, hlength⟩
    rw [List.reverse_append, List.reverse_reverse, List.reverse_singleton, List.singleton_append]

theorem membersOf_of_readAllMembers {ms : List (Text × Json)}
    (hread : readAllMembers value s = .ok (ms, rest)) : MembersOf value s ms rest := by
  obtain ⟨rfl, hclose⟩ | ⟨m, s₁, ms, rfl, hm, hms, -⟩ := exists_of_readAllMembers hread
  · exact .close hclose
  · exact .first hm hms

end Collected

/-! ## Readers of members -/

/-- Of every value that is read, the reader of members makes what the step makes of it. -/
def Follows (value : Reader Json) (member : MemberReader σ)
    (step : σ → Text × Json → Except ReadError σ) : Prop :=
  ∀ state key s v rest, value s = .ok (v, rest) →
    (member state key >>= fun read => read s) = (·, rest) <$> step state (key, v)

section Follows

variable {value : Reader Json} {member : MemberReader σ}
  {step : σ → Text × Json → Except ReadError σ} (h : Follows value member step)
  {s rest : Text} {m : Text × Json} {ms : List (Text × Json)}

include h

theorem readMember_of_memberAt (hm : MemberAt value s m rest) (state : σ) :
    readMember member state s = (·, rest) <$> step state m := by
  obtain ⟨rfl, hkey, hcolon, hvalue⟩ := hm
  simp only [readMember, hkey, Bind.bind, Except.bind, hcolon]
  exact h state _ _ _ _ hvalue

theorem moreMembers_of_membersBehind (hms : MembersBehind value s ms rest) {fuel : Nat}
    (hfuel : ms.length < fuel) (state : σ) :
    moreMembers member fuel state s = (·, rest) <$> ms.foldlM step state := by
  induction hms generalizing fuel state with
  | close hs =>
    obtain ⟨fuel, rfl⟩ := Nat.exists_eq_succ_of_ne_zero (Nat.ne_of_gt hfuel)
    rw [moreMembers]
    simp only [hs]
    rfl
  | @comma s s₁ s₂ rest m ms hs hm _ ih =>
    obtain ⟨fuel, rfl⟩ : ∃ n, fuel = n + 1 := Nat.exists_eq_succ_of_ne_zero (by omega)
    rw [moreMembers, List.foldlM_cons]
    simp only [hs, readMember_of_memberAt h hm]
    cases step state m with
    | error e => rfl
    | ok next => exact ih (Nat.lt_of_succ_lt_succ hfuel) next

/-- **What a reader makes of an object is what it makes of one member after the other.** -/
theorem readMembers_of_follows (hread : readAllMembers value s = .ok (ms, rest)) (state : σ) :
    readMembers member state s = (·, rest) <$> ms.foldlM step state := by
  obtain ⟨rfl, hclose⟩ | ⟨m, s₁, ms, rfl, hm, hms, hlength⟩ := exists_of_readAllMembers hread
  · rw [readMembers]
    simp only [hclose]
    rfl
  · have hfirst := readMember_of_memberAt h hm state
    have hmore := moreMembers_of_membersBehind h hms hlength
    obtain ⟨body, hquote⟩ := hm.exists_quote
    rw [readMembers, List.foldlM_cons]
    split
    · next hs => cases hs.symm.trans hquote
    · next hs => cases hs.symm.trans hquote
    · rw [hfirst]
      cases step state m with
      | error e => rfl
      | ok next => exact hmore next

end Follows

/-! ## Values of other shapes -/

/-- What a value is where another shape is wanted. -/
def found : Json → Found
  | null => .null
  | bool b => .bool b
  | number n => .number n
  | string t => .string t
  | array _ => .sequence
  | object _ => .map

/-- The text, if this is one. -/
def text : Json → Except ReadError Text
  | string t => .ok t
  | v => .error (.shape (.wrongType v.found "a string".toList))

/-- Neither a text nor a container. -/
def isPlain : Json → Bool
  | null | bool _ | number _ => true
  | string _ | array _ | object _ => false

/-- How a value begins that is read. -/
inductive Begins (depth : Nat) (s rest : Text) : Json → Prop
  | plain {c : Char} {cs : Text} {v : Json} (hs : skipSpace s = c :: cs)
      (hc : c ≠ '"' ∧ c ≠ '[' ∧ c ≠ '\x7b') (hv : v.isPlain = true) : Begins depth s rest v
  | string {body t : Text} (hs : skipSpace s = '"' :: body)
      (h : stringBody body = .ok (t, rest)) : Begins depth s rest (.string t)
  | array {body : Text} {items : List Json} (hs : skipSpace s = '[' :: body) :
      Begins depth s rest (.array items)
  | object {body : Text} {ms : List (Text × Json)} (hs : skipSpace s = '\x7b' :: body)
      (h : readAllMembers (readValue (depth - 1)) body = .ok (ms, rest)) :
      Begins depth s rest (.ofMembers ms)

section Values

variable {depth : Nat} {s rest : Text} {v : Json}

theorem isPlain_of_map_eq_ok {x : Except ReadError α} {f : α → Json × Text}
    (hf : ∀ a, (f a).1.isPlain = true) (h : f <$> x = .ok (v, rest)) : v.isPlain = true := by
  obtain ⟨a, -, ha⟩ := exists_of_map_eq_ok h
  rw [← hf a, ha]

theorem begins_of_readHead {array object : Reader Json}
    (harray : ∀ body, array body = .ok (v, rest) → ∃ items, v = .array items)
    (hobject : ∀ body, object body = .ok (v, rest) →
      ∃ ms, readAllMembers (readValue (depth - 1)) body = .ok (ms, rest) ∧ v = .ofMembers ms)
    (h : readHead array object s = .ok (v, rest)) : Begins depth s rest v := by
  rw [readHead] at h
  split at h
  · cases h
  · next hs => exact .plain hs (by decide) (isPlain_of_map_eq_ok (fun _ => rfl) h)
  · next hs => exact .plain hs (by decide) (isPlain_of_map_eq_ok (fun _ => rfl) h)
  · next hs => exact .plain hs (by decide) (isPlain_of_map_eq_ok (fun _ => rfl) h)
  · next hs =>
    obtain ⟨⟨t, r⟩, hbody, heq⟩ := exists_of_map_eq_ok h
    cases heq
    exact .string hs hbody
  · next body hs =>
    obtain ⟨items, rfl⟩ := harray body h
    exact .array hs
  · next body hs =>
    obtain ⟨ms, hms, rfl⟩ := hobject body h
    exact .object hs hms
  · next c body _ _ _ hquote hbracket hbrace hs =>
    split at h
    · exact .plain hs ⟨hquote, hbracket, hbrace⟩ (isPlain_of_map_eq_ok (fun _ => rfl) h)
    · cases h

theorem begins_of_readValue (h : readValue depth s = .ok (v, rest)) : Begins depth s rest v := by
  cases depth with
  | zero =>
    rw [readValue] at h
    refine begins_of_readHead ?_ ?_ h
    · intro body harray
      cases harray
    · intro body hobject
      cases hobject
  | succ depth =>
    rw [readValue] at h
    refine begins_of_readHead ?_ ?_ h
    · intro body harray
      obtain ⟨⟨items, r⟩, -, heq⟩ := exists_of_map_eq_ok harray
      cases heq
      exact ⟨items, rfl⟩
    · intro body hobject
      obtain ⟨⟨ms, r⟩, hms, heq⟩ := exists_of_map_eq_ok hobject
      cases heq
      exact ⟨ms, hms, rfl⟩

/-- What is no container is read by whatever readers of containers. -/
theorem readHead_of_readValue {c : Char} {cs : Text} (hs : skipSpace s = c :: cs)
    (hc : c ≠ '[' ∧ c ≠ '\x7b') (h : readValue depth s = .ok (v, rest))
    (array object : Reader Json) : readHead array object s = .ok (v, rest) := by
  have hcongr : ∀ array' object', readHead array object s = readHead array' object' s := by
    intro array' object'
    rw [readHead, readHead]
    split
    · rfl
    · rfl
    · rfl
    · rfl
    · rfl
    · next hs' => exact absurd (List.cons.inj (hs.symm.trans hs')).1 hc.1
    · next hs' => exact absurd (List.cons.inj (hs.symm.trans hs')).1 hc.2
    · rfl
  rw [← h]
  cases depth with
  | zero => exact hcongr _ _
  | succ depth => exact hcongr _ _

/-- **A value of another shape is named in the error.** -/
theorem mismatch_of_readValue (h : readValue depth s = .ok (v, rest)) (expected : Text) :
    (mismatch expected : Reader α) s = .error (.shape (.wrongType v.found expected)) := by
  cases begins_of_readValue h with
  | plain hs hc hv =>
    rw [mismatch, readHead_of_readValue hs hc.2 h]
    cases v <;> rfl
  | string hs hbody =>
    rw [mismatch, readHead]
    simp only [hs, hbody]
    rfl
  | array hs =>
    rw [mismatch, readHead]
    simp only [hs]
    rfl
  | object hs hms =>
    rw [mismatch, readHead]
    simp only [hs]
    rfl

theorem mismatch_skipSpace (expected s : Text) :
    (mismatch expected : Reader α) (skipSpace s) = mismatch expected s := by
  rw [mismatch, mismatch, readHead, readHead, skipSpace, skipSpace, List.dropWhile_idempotent]

/-- **A string is read where the value is one**; any other value is refused. -/
theorem readString_of_readValue (h : readValue depth s = .ok (v, rest)) :
    readString s = (·, rest) <$> v.text := by
  have hother : ∀ {c : Char} {cs : Text}, skipSpace s = c :: cs → c ≠ '"' →
      readString s = .error (.shape (.wrongType v.found "a string".toList)) := by
    intro c cs hs hc
    rw [readString]
    split
    · next hs' => exact absurd (List.cons.inj (hs.symm.trans hs')).1 hc
    · rw [mismatch_skipSpace, mismatch_of_readValue h]
  cases begins_of_readValue h with
  | plain hs hc hv =>
    rw [hother hs hc.1]
    cases v with
    | null => rfl
    | bool b => rfl
    | number n => rfl
    | _ => cases hv
  | string hs hbody =>
    rw [readString]
    simp only [hs]
    exact hbody
  | array hs => exact hother hs (by decide)
  | object hs hms => exact hother hs (by decide)

theorem readValue_of_brace {body : Text} (hs : skipSpace s = '\x7b' :: body) :
    readValue (depth + 1) s =
      (fun (ms, r) => (.ofMembers ms, r)) <$> readAllMembers (readValue depth) body := by
  rw [readValue, readHead]
  simp only [hs]

theorem ne_brace_of_readValue (h : readValue depth s = .ok (v, rest)) (hv : v.members? = none)
    (body : Text) : skipSpace s ≠ '\x7b' :: body := by
  intro hbrace
  cases begins_of_readValue h with
  | plain hs hc _ => exact hc.2.2 (List.cons.inj (hs.symm.trans hbrace)).1
  | string hs _ => cases hs.symm.trans hbrace
  | array hs => cases hs.symm.trans hbrace
  | object _ _ => cases hv

end Values

/-! ## Objects -/

/-- **Whatever members are written, they are read in their order**, also those with equal names. -/
theorem parseMembers_write {ms : List (Text × Json)}
    (h : ∀ m ∈ ms, m.2.Orderly (depthLimit - 1) ∧ m.2.Exact) :
    parseMembers (object ms).write = .ok ms := by
  have hleads : Leads (collectMember (readValue (depthLimit - 1))) [] ms (.ok (ms.reverse ++ [])) :=
    leads_collectMember (fun m hm _ => readValue_write (h m hm).1 (h m hm).2) []
  have hwrite : (object ms).write = '\x7b' :: (writeMembers ms ++ ['\x7d']) := by
    rw [write, List.cons_append]
  refine parseMembers_eq_ok_iff.mpr ⟨writeMembers ms ++ ['\x7d'], [], ?_, ?_, rfl⟩
  · rw [hwrite, skipSpace_cons (by decide)]
  · rw [readAllMembers, readMembers_write hleads, List.append_nil]
    show Except.ok (ms.reverse.reverse, []) = .ok (ms, [])
    rw [List.reverse_reverse]

theorem parse_of_parseMembers {s : Text} {ms : List (Text × Json)} (h : parseMembers s = .ok ms) :
    parse s = .ok (.ofMembers ms) := by
  obtain ⟨body, rest, hs, hms, hend⟩ := parseMembers_eq_ok_iff.mp h
  have hvalue : readValue depthLimit s = .ok (.ofMembers ms, rest) := by
    rw [show depthLimit = depthLimit - 1 + 1 from rfl, readValue_of_brace hs, hms]
    rfl
  exact readAll_eq_ok_iff.mpr ⟨rest, hvalue, hend⟩

theorem isObject_of_parseMembers {s : Text} {ms : List (Text × Json)}
    (h : parseMembers s = .ok ms) : IsObject s ms := by
  obtain ⟨body, rest, hs, hms, hend⟩ := parseMembers_eq_ok_iff.mp h
  exact ⟨body, rest, hs, membersOf_of_readAllMembers hms, hend⟩

/-- **A text is that of an object, or of a value that is none.** -/
theorem parse_cases {s : Text} {v : Json} (h : parse s = .ok v) :
    (∃ ms, parseMembers s = .ok ms ∧ v = .ofMembers ms) ∨ v.members? = none := by
  obtain ⟨rest, hread, hend⟩ := readAll_eq_ok_iff.mp h
  cases begins_of_readValue hread with
  | plain hs hc hv =>
    cases v with
    | object members => cases hv
    | _ => exact .inr rfl
  | string hs hbody => exact .inr rfl
  | array hs => exact .inr rfl
  | object hs hms => exact .inl ⟨_, parseMembers_eq_ok_iff.mpr ⟨_, rest, hs, hms, hend⟩, rfl⟩

/-- The members that are read are the members of the text. -/
theorem parseMembers_eq_ok_iff_isObject {s : Text} {v : Json} (h : parse s = .ok v)
    {ms : List (Text × Json)} : parseMembers s = .ok ms ↔ IsObject s ms := by
  constructor
  · exact isObject_of_parseMembers
  · intro hobject
    obtain ⟨ms', hms', -⟩ | hnone := parse_cases h
    · rw [hobject.unique (isObject_of_parseMembers hms')]
      exact hms'
    · obtain ⟨rest, hvalue, -⟩ := readAll_eq_ok_iff.mp h
      obtain ⟨body, -, hs, -, -⟩ := hobject
      exact absurd hs (ne_brace_of_readValue hvalue hnone body)

end Switchboard.Json
