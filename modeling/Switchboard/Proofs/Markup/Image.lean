import Switchboard.Proofs.Markup.Document
import Switchboard.Proofs.Text.Split

/-!
# Images with other attributes

An image is read for its alternative text only if the pattern for images admits every character of
its tag.  The pattern lists them, and a source with an at sign or a title with a line break has
characters that are not listed.  Such a tag is left to the pattern for any tag, so the image goes
without a trace: its text is not kept, and no failure tells that it has none.

* `imageWith`, `imageWithout`: image tags with and without an alternative text.
* `IsAttributes`: attributes besides the alternative text.
* `reduce_image`: a single tag is reduced to its image's text, or to nothing.
* `reduce_image_attributes`: what attributes do to an image.
* `not_forall_reduce_imageWith`: an image that is lost.
-/

namespace Switchboard.Markup

open Text Token

/-! ## Alternative texts -/

/-- Where no alternative text starts, reading goes on behind the next delimiter. -/
theorem altText?_append_cons {d : Char} {s : Text} (hd : d ∉ "alt=\"".toList)
    (h : occursIn "alt=\"".toList s = false) (t : Text) : altText? (s ++ d :: t) = altText? t := by
  have hnone {c : Char} {cs : Text} (hstart : "alt=\"".toList.isPrefixOf (c :: cs) = false) :
      altText? (c :: cs) = altText? cs := by
    rw [altText?, dropPrefix?, hstart]
    rfl
  induction s with
  | nil =>
    refine hnone ?_
    rw [← List.nil_append (d :: t), isPrefixOf_append_cons hd]
    rfl
  | cons c cs ih =>
    rw [occursIn, Bool.or_eq_false_iff] at h
    rw [List.cons_append, ← ih h.2]
    refine hnone ?_
    rw [← List.cons_append, isPrefixOf_append_cons hd]
    exact h.1

theorem isAltChar_eq_false_of_isBlank {c : Char} (h : isBlank c = true) : isAltChar c = false := by
  have hblanks : ∀ n ∈ List.range' 0x9 5 ++ List.range' 0x2000 11 ++
      [0x20, 0x85, 0xA0, 0x1680, 0x2028, 0x2029, 0x202F, 0x205F, 0x3000],
      isAltChar (Char.ofNat n) = false := by decide +kernel
  rw [← Char.ofNat_toNat c]
  refine hblanks _ ?_
  simp only [isBlank, Bool.or_eq_true, Bool.and_eq_true, decide_eq_true_eq, beq_iff_eq] at h
  simp only [List.mem_append, List.mem_range'_1, List.mem_cons, List.not_mem_nil, or_false]
  omega

/-- Alternative texts have neither entities nor blanks. -/
theorem trim_unescape_of_isAltChar {name : Text} (h : ∀ c ∈ name, isAltChar c) :
    trim (unescape name) = name := by
  have hread : unescape name = name := by
    rw [← escape_eq_self h, unescape_escape, escape_eq_self h]
  have hblank : ∀ c ∈ name, isBlank c = false := by
    intro c hc
    refine Bool.eq_false_iff.mpr fun hc' => ?_
    exact absurd (h c hc) (Bool.eq_false_iff.mp (isAltChar_eq_false_of_isBlank hc'))
  rw [hread]
  exact trim_of_ends (fun c hc => hblank c (List.mem_of_head? hc))
    (fun c hc => hblank c (List.mem_of_getLast? hc))

/-! ## Single image tags -/

theorem reduce_tag {inside : Text} (h : (tag inside).Sound)
    (hkey : inside ≠ "kbd".toList ∧ inside ≠ "/kbd".toList) :
    reduce (tag inside).spell = (fun t => trim (unescape t)) <$> (tag inside).plain? := by
  have hsound : ∀ t ∈ [tag inside], t.Sound := List.forall_mem_singleton.mpr h
  have hplain := withoutTags_spellAll hsound (by simpa using hkey.1.symm)
    (by simpa using hkey.2.symm)
  rw [spellAll_singleton] at hplain
  rw [reduce, hplain, List.mapM_cons]
  cases (tag inside).plain? with
  | error e => rfl
  | ok s => exact congrArg (fun s => Except.ok (trim (unescape s))) (List.append_nil s)

/-- **A single image tag is reduced to the text of the image if the pattern for images admits all of
it, and to nothing otherwise.** -/
theorem reduce_image {rest : Text} (hopening : '<' ∉ rest) (hclosing : '>' ∉ rest) :
    reduce (tag ("img".toList ++ rest)).spell =
      if rest.all isAnchorChar then
        (fun t => trim (unescape t)) <$> emoteText (tag ("img".toList ++ rest)).spell
      else .ok [] := by
  have hsound : (tag ("img".toList ++ rest)).Sound :=
    ⟨List.cons_ne_nil _ _, by simpa using hopening, by simpa using hclosing⟩
  have hplain : (tag ("img".toList ++ rest)).plain? =
      if rest.all isAnchorChar then emoteText (tag ("img".toList ++ rest)).spell else .ok [] := rfl
  rw [reduce_tag hsound (by constructor <;> intro h <;> cases h), hplain]
  split <;> rfl

/-! ## Attributes besides an alternative text -/

/-- An image tag with an alternative text between other attributes. -/
def imageWith (before name after : Text) : Text :=
  "<img ".toList ++ before ++ " alt=\"".toList ++ name ++ "\" ".toList ++ after ++ ">".toList

/-- An image tag without an alternative text. -/
def imageWithout (attributes : Text) : Text := "<img ".toList ++ attributes ++ ">".toList

/-- Attributes besides the alternative text. -/
structure IsAttributes (s : Text) : Prop where
  no_opening : '<' ∉ s
  no_closing : '>' ∉ s
  no_alt : occursIn "alt=\"".toList s = false

theorem IsAttributes.no_echo {s : Text} (h : IsAttributes s) :
    occursIn "alt=\"echo\"".toList s = false :=
  Bool.eq_false_iff.mpr fun hoccurs =>
    Bool.eq_false_iff.mp h.no_alt (occursIn_of_append (v := "echo\"".toList) hoccurs)

/-- Where no other attribute spells what starts an alternative text, the tag of the name does. -/
theorem altText?_imageWith {before name : Text} (hbefore : IsAttributes before) (hne : name ≠ [])
    (hname : ∀ c ∈ name, isAltChar c) (after : Text) :
    altText? (imageWith before name after) = some name := by
  have hspell : imageWith before name after = "<img".toList ++ ' ' :: (before ++ ' ' ::
      ("alt=\"".toList ++ (name ++ '"' :: (' ' :: after ++ ">".toList)))) := by
    unfold imageWith
    simp
  rw [hspell, altText?_append_cons (by decide) (by decide),
    altText?_append_cons (by decide) hbefore.no_alt, altText?_quoted hne hname]

theorem not_occursIn_imageWith {before name after : Text} (hbefore : IsAttributes before)
    (hafter : IsAttributes after) (hecho : name ≠ "echo".toList) (hname : ∀ c ∈ name, isAltChar c) :
    occursIn "alt=\"echo\"".toList (imageWith before name after) = false := by
  have hquote : '"' ∉ name := fun h => ne_of_isAltChar (hname _ h) (by decide +kernel) rfl
  have hspell : imageWith before name after = "<img".toList ++ ' ' :: (before ++ ' ' ::
      ("alt=".toList ++ '"' :: (name ++ ['"'])  ++ ' ' :: (after ++ ['>']))) := by
    unfold imageWith
    simp
  have hwanted : "alt=\"echo\"".toList = "alt=".toList ++ '"' :: "echo\"".toList := by decide
  have hat : "echo\"".toList.isPrefixOf (name ++ ['"']) = false := by
    have hdelimited := isPrefixOf_delimited (u := "echo".toList) (by decide) hquote [] []
    rw [beq_false_of_ne (Ne.symm hecho), Bool.false_and] at hdelimited
    exact hdelimited
  have hown : occursIn "alt=\"echo\"".toList ("alt=".toList ++ '"' :: (name ++ ['"'])) = false := by
    rw [hwanted, occursIn_delimited (by decide) (by decide) (by decide), hat,
      occursIn_delimited (by decide) (by decide) hquote]
    simp [occursIn]
  rw [hspell, occursIn_append_cons (by decide), occursIn_append_cons (by decide), hbefore.no_echo,
    occursIn_append_cons (by decide), hown, occursIn_append_cons (by decide), hafter.no_echo]
  decide

/-- Without an alternative text an image is a failure that names its tag. -/
theorem emoteText_imageWithout {attributes : Text} (h : IsAttributes attributes) :
    emoteText (imageWithout attributes) =
      .error (.malformed reduceName ("emote without alt text: ".toList ++ imageWithout attributes)) := by
  have hspell : imageWithout attributes = "<img".toList ++ ' ' :: (attributes ++ '>' :: []) := by
    unfold imageWithout
    simp
  have hecho : occursIn "alt=\"echo\"".toList (imageWithout attributes) = false := by
    rw [hspell, occursIn_append_cons (by decide), occursIn_append_cons (by decide), h.no_echo]
    decide
  have halt : altText? (imageWithout attributes) = none := by
    rw [hspell, altText?_append_cons (by decide) (by decide),
      altText?_append_cons (by decide) h.no_alt]
    rfl
  rw [emoteText, hecho, if_neg Bool.false_ne_true, halt]

/-! ## Images kept and lost -/

/-- What follows the name of an image tag with an alternative text. -/
def insideWith (before name after : Text) : Text :=
  ' ' :: before ++ " alt=\"".toList ++ name ++ "\" ".toList ++ after

/-- All but the other attributes may stand in an image tag. -/
theorem inImage_of_mem_insideWith {before name after : Text} (hname : ∀ c ∈ name, isAltChar c) :
    ∀ c ∈ insideWith before name after, c ∈ before ∨ c ∈ after ∨ InImage c := by
  have hfixed : ∀ c ∈ " alt=\"".toList, InImage c := inImage_of_mem (by decide +kernel)
  intro c hc
  unfold insideWith at hc
  simp only [List.mem_append, List.mem_cons] at hc
  obtain ((((rfl | hbefore) | halt) | hmem) | hquote) | hafter := hc
  · exact .inr (.inr (hfixed _ (by decide)))
  · exact .inl hbefore
  · exact .inr (.inr (hfixed c halt))
  · exact .inr (.inr (inImage_of_isAltChar (hname c hmem)))
  · exact .inr (.inr (hfixed c ((by decide : "\" ".toList ⊆ " alt=\"".toList) hquote)))
  · exact .inr (.inl hafter)

theorem all_insideWith {before name after : Text} (hname : ∀ c ∈ name, isAltChar c) :
    (insideWith before name after).all isAnchorChar = (before ++ after).all isAnchorChar := by
  rw [Bool.eq_iff_iff, List.all_eq_true, List.all_eq_true]
  constructor
  · intro h c hc
    refine h c ?_
    unfold insideWith
    simp only [List.mem_append, List.mem_cons] at hc ⊢
    obtain hbefore | hafter := hc
    · exact .inl (.inl (.inl (.inl (.inr hbefore))))
    · exact .inr hafter
  · intro h c hc
    obtain hbefore | hafter | hin := inImage_of_mem_insideWith hname c hc
    · exact h c (List.mem_append_left after hbefore)
    · exact h c (List.mem_append_right before hafter)
    · exact hin.1

theorem reduce_imageWith {before name after : Text} (hbefore : IsAttributes before)
    (hafter : IsAttributes after) (hne : name ≠ []) (hecho : name ≠ "echo".toList)
    (hname : ∀ c ∈ name, isAltChar c) :
    reduce (imageWith before name after) =
      .ok (if (before ++ after).all isAnchorChar then name else []) := by
  have hspell : imageWith before name after =
      (tag ("img".toList ++ insideWith before name after)).spell := by
    unfold imageWith insideWith
    simp [spell]
  have hemote : emoteText (imageWith before name after) = .ok name := by
    rw [emoteText, not_occursIn_imageWith hbefore hafter hecho hname, if_neg Bool.false_ne_true,
      altText?_imageWith hbefore hne hname]
  have hfree {d : Char} (hd : ¬InImage d) (hnot : d ∉ before ∧ d ∉ after) :
      d ∉ insideWith before name after := by
    intro h
    obtain hmem | hmem | hin := inImage_of_mem_insideWith hname d h
    · exact hnot.1 hmem
    · exact hnot.2 hmem
    · exact hd hin
  have hopening : '<' ∉ insideWith before name after :=
    hfree (fun h => h.2.1 rfl) ⟨hbefore.no_opening, hafter.no_opening⟩
  have hclosing : '>' ∉ insideWith before name after :=
    hfree (fun h => h.2.2 rfl) ⟨hbefore.no_closing, hafter.no_closing⟩
  rw [hspell, reduce_image hopening hclosing, ← hspell, hemote, all_insideWith hname]
  split
  · exact congrArg Except.ok (trim_unescape_of_isAltChar hname)
  · rfl

theorem reduce_imageWithout {attributes : Text} (h : IsAttributes attributes) :
    reduce (imageWithout attributes) =
      if attributes.all isAnchorChar then
        .error (.malformed reduceName ("emote without alt text: ".toList ++ imageWithout attributes))
      else .ok [] := by
  have hspell : imageWithout attributes = (tag ("img".toList ++ (' ' :: attributes))).spell := by
    unfold imageWithout
    simp [spell]
  have hspace : isAnchorChar ' ' = true := by decide +kernel
  have hopening : '<' ∉ ' ' :: attributes := by simpa using h.no_opening
  have hclosing : '>' ∉ ' ' :: attributes := by simpa using h.no_closing
  rw [hspell, reduce_image hopening hclosing, ← hspell, emoteText_imageWithout h, List.all_cons,
    hspace, Bool.true_and]
  rfl

/-- **An image is kept or refused only where its attributes are made of characters that the pattern
for images admits.**  It then becomes its alternative text, or a failure that names its tag if it has
none.  With any other character among its attributes it is dropped like an ordinary tag, whether or
not it has an alternative text. -/
theorem reduce_image_attributes {before name after : Text} (hbefore : IsAttributes before)
    (hafter : IsAttributes after) (hne : name ≠ []) (hecho : name ≠ "echo".toList)
    (hname : ∀ c ∈ name, isAltChar c) :
    reduce (imageWith before name after) =
        .ok (if (before ++ after).all isAnchorChar then name else []) ∧
      reduce (imageWithout before) =
        if before.all isAnchorChar then
          .error (.malformed reduceName ("emote without alt text: ".toList ++ imageWithout before))
        else .ok [] :=
  ⟨reduce_imageWith hbefore hafter hne hecho hname, reduce_imageWithout hbefore⟩

/-- A source whose name has an at sign. -/
def waveSource : Text := "src=\"/e/wave@2x.png\"".toList

theorem isAttributes_nil : IsAttributes [] := ⟨by decide, by decide, by decide⟩

theorem isAttributes_waveSource : IsAttributes waveSource := ⟨by decide, by decide, by decide⟩

theorem reduce_image_attributes_wave :
    reduce (imageWith waveSource ":wave:".toList []) = .ok [] ∧
      reduce (imageWithout waveSource) = .ok [] := by
  have hname : ":wave:".toList.all isAltChar = true := by decide +kernel
  have hall : waveSource.all isAnchorChar = false := by decide +kernel
  have hboth := reduce_image_attributes isAttributes_waveSource isAttributes_nil
    (List.cons_ne_nil ':' "wave:".toList) (by decide) (List.all_eq_true.mp hname)
  rw [List.append_nil, hall] at hboth
  exact hboth

/-- Not every image with an alternative text becomes it, and not every image without one is refused.
-/
theorem not_forall_reduce_imageWith :
    ¬∀ before after name : Text, IsAttributes before → IsAttributes after → name ≠ [] →
      name ≠ "echo".toList → (∀ c ∈ name, isAltChar c) →
      reduce (imageWith before name after) = .ok name ∧
        ∃ reason, reduce (imageWithout before) = .error (.malformed reduceName reason) := by
  intro h
  have hname : ":wave:".toList.all isAltChar = true := by decide +kernel
  have hclaimed := (h waveSource [] ":wave:".toList isAttributes_waveSource isAttributes_nil
    (by decide) (by decide) (List.all_eq_true.mp hname)).1
  have hlost : (reduce (imageWith waveSource ":wave:".toList [])).toOption = some [] := by
    decide +kernel
  rw [hclaimed] at hlost
  revert hlost
  decide

end Switchboard.Markup
