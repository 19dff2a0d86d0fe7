import Switchboard.Json.Scan
import Switchboard.Proofs.Json.Shape

/-!
# Strings and integers are read back

A string that is written with its escapes is read back as it was, whatever follows it, and so is an
integer of 64 bits, if what follows may follow a value.

* `Json.stringBody_writeString`: strings.
* `Json.AtEnd`: what may follow a value.
* `Json.readNumber_write`: integers.
-/

namespace Switchboard.Json

/-! ## Strings -/

theorem hexValue?_hexDigit {n : Nat} (h : n < 16) : hexValue? (hexDigit n) = some n := by
  revert n
  decide

/-- A character is written behind a backslash, as a number of base sixteen, or as itself. -/
theorem writeChar_cases (c : Char) :
    (∃ e, e ≠ 'u' ∧ simpleEscape? e = some c ∧ writeChar c = ['\\', e]) ∨
    (c.toNat < 0x20 ∧ writeChar c =
      ['\\', 'u', '0', '0', hexDigit (c.toNat / 16), hexDigit (c.toNat % 16)]) ∨
    (¬c.toNat < 0x20 ∧ c ≠ '"' ∧ c ≠ '\\' ∧ writeChar c = [c]) := by
  unfold writeChar
  split
  · next h => exact .inl ⟨'"', by decide, by rw [h]; rfl, rfl⟩
  split
  · next h => exact .inl ⟨'\\', by decide, by rw [h]; rfl, rfl⟩
  split
  · next h => exact .inl ⟨'n', by decide, by rw [h]; rfl, rfl⟩
  split
  · next h => exact .inl ⟨'r', by decide, by rw [h]; rfl, rfl⟩
  split
  · next h => exact .inl ⟨'t', by decide, by rw [h]; rfl, rfl⟩
  split
  · next h => exact .inl ⟨'b', by decide, by rw [h]; rfl, rfl⟩
  split
  · next h => exact .inl ⟨'f', by decide, by rw [h]; rfl, rfl⟩
  split
  · next h => exact .inr (.inl ⟨h, rfl⟩)
  · next hquote hslash _ _ _ _ _ h => exact .inr (.inr ⟨h, hquote, hslash, rfl⟩)

section StringFrom

variable {state next : StringState} {c d : Char} {rest s after : Text}

/-- A character that adds nothing to the string. -/
theorem stringFrom_of_silent (hopen : ¬(state = .plain ∧ c = '"'))
    (hstep : stringStep c rest state = .ok (next, []))
    (h : stringFrom next rest = .ok (s, after)) : stringFrom state (c :: rest) = .ok (s, after) := by
  rw [stringFrom, if_neg hopen, hstep]
  simp only [h, List.nil_append]

/-- A character that adds one to the string. -/
theorem stringFrom_of_gain (hopen : ¬(state = .plain ∧ c = '"'))
    (hstep : stringStep c rest state = .ok (next, [d]))
    (h : stringFrom next rest = .ok (s, after)) :
    stringFrom state (c :: rest) = .ok (d :: s, after) := by
  rw [stringFrom, if_neg hopen, hstep]
  simp only [h, List.singleton_append]

theorem stringFrom_escape (hc : c ≠ 'u') (hescape : simpleEscape? c = some d)
    (h : stringFrom .plain rest = .ok (s, after)) :
    stringFrom .plain ('\\' :: c :: rest) = .ok (d :: s, after) := by
  have hstep : stringStep c rest .escape = .ok (.plain, [d]) := by
    rw [stringStep, if_neg hc, hescape]
  have hbehind : stringFrom .escape (c :: rest) = .ok (d :: s, after) :=
    stringFrom_of_gain (by simp) hstep h
  exact stringFrom_of_silent (by decide) rfl hbehind

/-- The last digit of a number of base sixteen completes a character below the space. -/
theorem stringStep_lastDigit (h : c.toNat < 0x20) (rest : Text) :
    stringStep (hexDigit (c.toNat % 16)) rest (.code 1 (c.toNat / 16) none) =
      .ok (.plain, [c]) := by
  have hvalue : c.toNat / 16 * 16 + c.toNat % 16 = c.toNat := Nat.div_add_mod' c.toNat 16
  have hlow : ¬(0xDC00 ≤ c.toNat ∧ c.toNat ≤ 0xDFFF) := by omega
  have hhigh : ¬(0xD800 ≤ c.toNat ∧ c.toNat ≤ 0xDBFF) := by omega
  rw [stringStep, hexValue?_hexDigit (Nat.mod_lt _ (by decide))]
  simp only [Nat.le_refl, if_true, hvalue]
  rw [codeStep, if_neg hlow, if_neg hhigh, Char.ofNat_toNat]

theorem stringFrom_code (hc : c.toNat < 0x20) (h : stringFrom .plain rest = .ok (s, after)) :
    stringFrom .plain ('\\' :: 'u' :: '0' :: '0' :: hexDigit (c.toNat / 16) ::
      hexDigit (c.toNat % 16) :: rest) = .ok (c :: s, after) := by
  -- from the last digit back to the backslash, the state behind each character is known
  let low : Text := hexDigit (c.toNat % 16) :: rest
  let high : Text := hexDigit (c.toNat / 16) :: low
  have hlow : stringFrom (.code 1 (c.toNat / 16) none) low = .ok (c :: s, after) :=
    stringFrom_of_gain (by simp) (stringStep_lastDigit hc rest) h
  have hhigh : stringFrom (.code 2 0 none) high = .ok (c :: s, after) := by
    have hstep : stringStep (hexDigit (c.toNat / 16)) low (.code 2 0 none) =
        .ok (.code 1 (c.toNat / 16) none, []) := by
      rw [stringStep, hexValue?_hexDigit (by omega)]
      simp only [Nat.reduceLeDiff, if_false, Nat.zero_mul, Nat.zero_add, Nat.reduceSub]
    exact stringFrom_of_silent (by simp) hstep hlow
  have hzero : stringFrom (.code 3 0 none) ('0' :: high) = .ok (c :: s, after) :=
    stringFrom_of_silent (by simp) rfl hhigh
  have hzeros : stringFrom (.code 4 0 none) ('0' :: '0' :: high) = .ok (c :: s, after) :=
    stringFrom_of_silent (by simp) rfl hzero
  have hbegin : stringStep 'u' ('0' :: '0' :: high) .escape = .ok (.code 4 0 none, []) := by
    have hsize : ¬Text.size8 ('0' :: '0' :: high) < 4 := by
      have h₁ := (hexDigit (c.toNat / 16)).utf8Size_pos
      have h₂ := (hexDigit (c.toNat % 16)).utf8Size_pos
      simp only [high, low, Text.size8]
      have h₃ : '0'.utf8Size = 1 := rfl
      omega
    rw [stringStep, if_pos rfl, beginCode, if_neg hsize]
  have hbehind : stringFrom .escape ('u' :: '0' :: '0' :: high) = .ok (c :: s, after) :=
    stringFrom_of_silent (by simp) hbegin hzeros
  exact stringFrom_of_silent (by decide) rfl hbehind

theorem stringFrom_writeChar (c : Char) (h : stringFrom .plain rest = .ok (s, after)) :
    stringFrom .plain (writeChar c ++ rest) = .ok (c :: s, after) := by
  obtain ⟨e, he, hescape, hwrite⟩ | ⟨hcode, hwrite⟩ | ⟨hspace, hquote, hslash, hwrite⟩ :=
    writeChar_cases c <;> rw [hwrite]
  · exact stringFrom_escape he hescape h
  · exact stringFrom_code hcode h
  · have hstep : stringStep c rest .plain = .ok (.plain, [c]) := by
      rw [stringStep, if_neg hslash, if_neg hspace]
    exact stringFrom_of_gain (fun h => hquote h.2) hstep h

end StringFrom

/-- **A string is read back**, whatever follows it. -/
theorem stringBody_writeString (s rest : Text) :
    stringBody (s.flatMap writeChar ++ '"' :: rest) = .ok (s, rest) := by
  induction s with
  | nil => rfl
  | cons c cs ih =>
    rw [List.flatMap_cons, List.append_assoc]
    exact stringFrom_writeChar c ih

/-! ## Digits -/

theorem isDigit_of_mem_decimalDigits {n : Nat} {c : Char} (h : c ∈ Binary64.decimalDigits n) :
    c.isDigit = true := Nat.isDigit_of_mem_toDigits (by decide) (by decide) h

theorem exists_decimalDigits_eq (n : Nat) :
    ∃ c cs, Binary64.decimalDigits n = c :: cs ∧ c.isDigit = true := by
  have hne : Binary64.decimalDigits n ≠ [] := Nat.toDigits_ne_nil
  obtain ⟨c, cs, hds⟩ := List.exists_cons_of_ne_nil hne
  have hmem : c ∈ Binary64.decimalDigits n := by
    rw [hds]
    exact List.mem_cons_self
  exact ⟨c, cs, hds, isDigit_of_mem_decimalDigits hmem⟩

/-- A number other than zero does not start with zero. -/
theorem eq_nil_of_decimalDigits_eq {n : Nat} {ds : Text}
    (h : Binary64.decimalDigits n = '0' :: ds) : ds = [] := by
  induction n using Nat.strongRecOn generalizing ds with
  | ind n ih =>
    rw [Binary64.decimalDigits, Nat.toDigits_eq_if (by decide)] at h
    split at h
    · exact (List.cons.inj h).2.symm
    · next hn =>
      obtain ⟨d, front, hfront⟩ := List.exists_cons_of_ne_nil (Nat.toDigits_ne_nil (n := n / 10))
      rw [hfront, List.cons_append] at h
      obtain ⟨rfl, -⟩ := List.cons.inj h
      -- then nothing but the zero stands before the last digit
      have hnil : front = [] := ih (n / 10) (by omega) hfront
      have hvalue := Nat.ofDigitChars_toDigits (n := n / 10) (by decide : 1 < 10) (by decide)
      rw [hfront, hnil] at hvalue
      have hzero : n / 10 = 0 := hvalue.symm
      omega

theorem digitSpan_append {ds rest : Text} (hds : ∀ c ∈ ds, c.isDigit = true)
    (hrest : ∀ c, rest.head? = some c → c.isDigit = false) :
    digitSpan (ds ++ rest) = (ds, rest) := by
  have htake : rest.takeWhile Char.isDigit = [] := by
    cases rest with
    | nil => rfl
    | cons c cs => rw [List.takeWhile_cons, hrest c rfl]; rfl
  have hdrop : rest.dropWhile Char.isDigit = rest := by
    cases rest with
    | nil => rfl
    | cons c cs => rw [List.dropWhile_cons, hrest c rfl]; rfl
  rw [digitSpan, List.takeWhile_append_of_pos hds, List.dropWhile_append_of_pos hds, htake, hdrop,
    List.append_nil]

theorem le_ofDigitChars (n : Nat) (ds : Text) : n ≤ Nat.ofDigitChars 10 ds n := by
  induction ds generalizing n with
  | nil => exact Nat.le_refl n
  | cons d ds ih =>
    have hgrows : n ≤ 10 * n + (d.toNat - '0'.toNat) := by omega
    exact Nat.le_trans hgrows (ih _)

/-- Digits are added up as long as the number they make is within the limit. -/
theorem accumulate_of_le {limit n : Nat} {ds : Text}
    (h : Nat.ofDigitChars 10 ds n ≤ limit) :
    accumulate limit n ds = (Nat.ofDigitChars 10 ds n, []) := by
  induction ds generalizing n with
  | nil => rfl
  | cons d ds ih =>
    have hstep : n * 10 + digitValue d = 10 * n + (d.toNat - '0'.toNat) := by
      rw [Nat.mul_comm, digitValue]
    have hle : 10 * n + (d.toNat - '0'.toNat) ≤ limit :=
      Nat.le_trans (le_ofDigitChars _ ds) h
    rw [accumulate, hstep, if_pos hle]
    exact ih h

/-! ## Integers -/

/-- What may follow a value: nothing, a comma, or a closing bracket. -/
def AtEnd (rest : Text) : Prop :=
  ∀ c, rest.head? = some c → c = ',' ∨ c = ']' ∨ c = '\x7d'

theorem AtEnd.cases {rest : Text} (h : AtEnd rest) :
    rest = [] ∨ ∃ cs, rest = ',' :: cs ∨ rest = ']' :: cs ∨ rest = '\x7d' :: cs := by
  cases rest with
  | nil => exact .inl rfl
  | cons c cs =>
    right
    obtain rfl | rfl | rfl := h c rfl
    · exact ⟨cs, .inl rfl⟩
    · exact ⟨cs, .inr (.inl rfl)⟩
    · exact ⟨cs, .inr (.inr rfl)⟩

theorem AtEnd.not_isDigit {rest : Text} (h : AtEnd rest) (c : Char) (hc : rest.head? = some c) :
    c.isDigit = false := by
  obtain rfl | rfl | rfl := h c hc <;> decide

/-- The decimal digits of a number are read as that number. -/
theorem readMagnitude_decimalDigits (negative : Bool) {n : Nat} {rest : Text}
    (hn : n ≤ greatest64) (hrest : AtEnd rest) :
    readMagnitude negative (Binary64.decimalDigits n ++ rest) = integerOf negative n rest := by
  obtain ⟨c, cs, hds, hc⟩ := exists_decimalDigits_eq n
  have hdigits : ∀ d ∈ c :: cs, d.isDigit = true := by
    rw [← hds]
    exact fun d => isDigit_of_mem_decimalDigits
  have hspan : digitSpan (c :: (cs ++ rest)) = (c :: cs, rest) :=
    digitSpan_append hdigits hrest.not_isDigit
  have hzero : ¬(c = '0' ∧ (cs ++ rest).head?.any Char.isDigit = true) := by
    rintro ⟨rfl, hnext⟩
    rw [eq_nil_of_decimalDigits_eq hds, List.nil_append, Option.any_eq_true] at hnext
    obtain ⟨d, hd, hdigit⟩ := hnext
    rw [hrest.not_isDigit d hd] at hdigit
    cases hdigit
  have hvalue : Nat.ofDigitChars 10 (c :: cs) 0 = n := by
    rw [← hds]
    exact Nat.ofDigitChars_toDigits (by decide) (by decide)
  have haccumulate : accumulate greatest64 0 (c :: cs) = (n, []) := by
    rw [accumulate_of_le (by rw [hvalue]; exact hn), hvalue]
  rw [hds, List.cons_append, readMagnitude, hc]
  simp only [Bool.not_true, Bool.false_eq_true, if_false, hspan, if_neg hzero, haccumulate]
  -- neither a point nor an exponent follows
  obtain rfl | ⟨ds, rfl | rfl | rfl⟩ := hrest.cases <;> rfl

theorem readNumber_of_isDigit {c : Char} (h : c.isDigit = true) (cs : Text) :
    readNumber (c :: cs) = readMagnitude false (c :: cs) := by
  unfold readNumber
  split
  · next hcons =>
    rw [(List.cons.inj hcons).1] at h
    cases h
  · rfl

/-- **An integer of 64 bits is read back**, if what follows may follow a value. -/
theorem readNumber_write {i : Int} {rest : Text} (hi : (Number.int i).Exact)
    (hrest : AtEnd rest) : readNumber ((Number.int i).write ++ rest) = .ok (.int i, rest) := by
  obtain ⟨hlow, hhigh⟩ := hi
  have hn : i.natAbs ≤ greatest64 := by
    rw [greatest64]
    omega
  by_cases hneg : i < 0
  · have hread : readNumber ('-' :: (Binary64.decimalDigits i.natAbs ++ rest)) =
        integerOf true i.natAbs rest := readMagnitude_decimalDigits true hn hrest
    have hrange : 0 < i.natAbs ∧ i.natAbs ≤ 9223372036854775808 := by omega
    have hvalue : -(i.natAbs : Int) = i := by omega
    rw [Number.write, if_pos hneg, List.cons_append, hread, integerOf]
    simp only [Bool.not_true, Bool.false_eq_true, if_false, if_pos hrange, hvalue]
  · have hread := readMagnitude_decimalDigits false hn hrest
    have hvalue : (i.natAbs : Int) = i := by omega
    obtain ⟨c, cs, hds, hc⟩ := exists_decimalDigits_eq i.natAbs
    rw [hds, List.cons_append] at hread
    rw [Number.write, if_neg hneg, hds, List.cons_append, readNumber_of_isDigit hc, hread, integerOf]
    simp only [Bool.not_false, if_true, hvalue]

end Switchboard.Json
