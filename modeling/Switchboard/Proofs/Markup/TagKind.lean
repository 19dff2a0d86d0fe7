import Switchboard.Proofs.Markup.Token

/-!
# Kinds of tags

The patterns of the reduction as conditions on what is between the brackets of a tag.  A pattern is
put together from parts, and so is its condition.

* `isParagraph`, `isAnchor`, `isImage`, `isLineBreak`: the conditions.
* `matchesTags_paragraphTag` and its like: the patterns match just these tags.
* `withoutTags_spellAll`: markup is freed of tags token by token.
-/

namespace Switchboard.Markup

open Text Token

/-! ## Conditions -/

/-- The text starts with the letters, of either case, and the rest satisfies `q`. -/
def afterLetters : Text → (Text → Bool) → Text → Bool
  | [], q, s => q s
  | _ :: _, _, [] => false
  | w :: ws, q, c :: cs => if c.toLower = w then afterLetters ws q cs else false

/-- The text satisfies `q` behind a slash that it may start with. -/
def afterSlash (q : Text → Bool) : Text → Bool
  | '/' :: s => q s
  | s => q s

/-- The text satisfies `q` behind the blanks that it starts with. -/
def afterBlanks (q : Text → Bool) (s : Text) : Bool := q (s.dropWhile isBlank)

/-- The inside of a tag that is dropped as a paragraph. -/
def isParagraph : Text → Bool := afterSlash (afterLetters ['p'] (·.all isParagraphChar))

/-- The inside of a tag that is dropped as an anchor. -/
def isAnchor : Text → Bool := afterSlash (afterLetters ['a'] (·.all isAnchorChar))

/-- The inside of an image. -/
def isImage : Text → Bool := afterLetters "img".toList (·.all isAnchorChar)

/-- The inside of a line break. -/
def isLineBreak : Text → Bool := afterLetters "br".toList (afterBlanks (afterSlash List.isEmpty))

/-! ## Parts of patterns -/

section Parts

variable {p : Pattern} {q : Text → Bool}

theorem andThen_of_none {first : Pattern} {s : Text} (h : first s = none) :
    andThen first p s = none := by
  rw [andThen, h]
  rfl

theorem andThen_of_some {first : Pattern} {s v : Text} (h : first s = some v) :
    andThen first p s = (p (s.drop v.length)).map (v ++ ·) := by
  rw [andThen, h, Option.bind_eq_bind, Option.bind_some]
  cases p (s.drop v.length) <;> rfl

theorem matchesInside_throughBracket (within : Char → Bool) :
    MatchesInside (throughBracket within) (·.all within) := by
  intro inside rest hinside
  induction inside with
  | nil => rfl
  | cons c cs ih =>
    have hc : c ≠ '>' := fun h => hinside (h ▸ List.mem_cons_self)
    rw [List.cons_append, throughBracket, if_neg hc, ih fun h => hinside (List.mem_cons_of_mem c h)]
    simp only [List.all_cons, Bool.and_eq_true]
    by_cases hin : within c = true
    · by_cases hall : cs.all within = true
      · rw [if_pos hin, if_pos hall, if_pos ⟨hin, hall⟩]
        rfl
      · rw [if_pos hin, if_neg hall, if_neg fun h => hall h.2]
        rfl
    · rw [if_neg hin, if_neg fun h => hin h.1]

theorem matchesInside_closing : MatchesInside (literal ['>']) List.isEmpty := by
  intro inside rest hinside
  cases inside with
  | nil => rfl
  | cons c cs =>
    have hc : '>' ≠ c := fun h => hinside (h ▸ List.mem_cons_self)
    simp [literal, List.isPrefixOf_cons_cons, hc]

/-- What is read of the inside first leaves its rest to the condition. -/
theorem MatchesInside.andThen {first : Pattern} (h : MatchesInside p q) (v inside : Text)
    {rest : Text} (hclosing : '>' ∉ v ++ inside)
    (hfirst : first (v ++ inside ++ '>' :: rest) = some v) :
    Markup.andThen first p (v ++ inside ++ '>' :: rest) =
      if q inside then some (v ++ inside ++ ['>']) else none := by
  have hinside := h inside rest fun hmem => hclosing (List.mem_append_right v hmem)
  rw [andThen_of_some hfirst, List.append_assoc, List.drop_left, hinside]
  split
  · rw [Option.map_some, List.append_assoc]
  · rfl

theorem MatchesInside.slash (h : MatchesInside p q) :
    MatchesInside (Markup.andThen slash? p) (afterSlash q) := by
  intro inside rest hclosing
  unfold afterSlash
  split
  · exact h.andThen ['/'] _ hclosing rfl
  · next hslash =>
    refine h.andThen [] inside hclosing ?_
    cases inside with
    | nil => rfl
    | cons c cs =>
      rw [List.nil_append, List.cons_append, slash?]
      rintro s ⟨rfl, -⟩
      exact hslash cs rfl

theorem MatchesInside.blanks (h : MatchesInside p q) :
    MatchesInside (Markup.andThen Markup.blanks p) (afterBlanks q) := by
  intro inside rest hclosing
  have hsplit : inside.takeWhile isBlank ++ inside.dropWhile isBlank = inside :=
    List.takeWhile_append_dropWhile
  have hread : Markup.blanks (inside ++ '>' :: rest) = some (inside.takeWhile isBlank) := by
    have hbracket : ¬isBlank '>' = true := by decide
    rw [Markup.blanks, List.takeWhile_append, List.takeWhile_cons_of_neg hbracket, List.append_nil]
    split
    · next hall => rw [(List.takeWhile_prefix isBlank).eq_of_length hall]
    · rfl
  have hmatch := h.andThen (inside.takeWhile isBlank) (inside.dropWhile isBlank)
    (by rw [hsplit]; exact hclosing) (by rw [hsplit]; exact hread)
  rw [hsplit] at hmatch
  exact hmatch

theorem andThen_eitherCase_cons (w : Char) (ws : Text) (c : Char) (s : Text) :
    andThen (eitherCase (w :: ws)) p (c :: s) =
      if c.toLower = w then (andThen (eitherCase ws) p s).map (c :: ·) else none := by
  by_cases hletter : c.toLower = w
  · have hread : eitherCase (w :: ws) (c :: s) = (eitherCase ws s).map (c :: ·) := if_pos hletter
    rw [if_pos hletter]
    cases hword : eitherCase ws s with
    | none =>
      rw [hword] at hread
      rw [andThen_of_none hword, andThen_of_none hread]
      rfl
    | some v =>
      rw [hword] at hread
      rw [andThen_of_some hword, andThen_of_some hread, Option.map_map]
      rfl
  · rw [if_neg hletter]
    exact andThen_of_none (if_neg hletter)

theorem MatchesInside.letters (word : Text) (hword : '>' ∉ word) (h : MatchesInside p q) :
    MatchesInside (Markup.andThen (eitherCase word) p) (afterLetters word q) := by
  induction word with
  | nil => exact fun inside rest hclosing => h.andThen [] inside hclosing rfl
  | cons w ws ih =>
    intro inside rest hclosing
    cases inside with
    | nil =>
      -- a tag that ends too early has its bracket where a letter should be
      have hw : '>'.toLower ≠ w := fun hw => hword (hw ▸ List.mem_cons_self)
      rw [List.nil_append, andThen_eitherCase_cons, if_neg hw]
      rfl
    | cons c cs =>
      rw [List.cons_append, andThen_eitherCase_cons,
        ih (fun hw => hword (List.mem_cons_of_mem w hw)) cs rest
          fun hc => hclosing (List.mem_cons_of_mem c hc), afterLetters]
      split
      · cases afterLetters ws q cs <;> rfl
      · rfl

/-- Behind an opening bracket such a pattern matches tags. -/
theorem MatchesInside.matchesTags (h : MatchesInside p q) :
    MatchesTags (Markup.andThen (literal ['<']) p) q where
  at_bracket c s hc := by
    refine andThen_of_none ?_
    simp [literal, List.isPrefixOf_cons_cons, hc.symm]
  inside inside rest hclosing := by
    have hbracket : literal ['<'] ('<' :: (inside ++ '>' :: rest)) = some ['<'] := rfl
    rw [andThen_of_some hbracket]
    show (p (inside ++ '>' :: rest)).map _ = _
    rw [h inside rest hclosing]
    cases q inside <;> rfl

end Parts

/-! ## The patterns of the reduction -/

theorem matchesTags_paragraphTag : MatchesTags paragraphTag isParagraph :=
  ((matchesInside_throughBracket isParagraphChar).letters ['p'] (by decide)).slash.matchesTags

theorem matchesTags_anchorTag : MatchesTags anchorTag isAnchor :=
  ((matchesInside_throughBracket isAnchorChar).letters ['a'] (by decide)).slash.matchesTags

theorem matchesTags_imageTag : MatchesTags imageTag isImage :=
  ((matchesInside_throughBracket isAnchorChar).letters "img".toList (by decide)).matchesTags

theorem matchesTags_lineBreakTag : MatchesTags lineBreakTag isLineBreak :=
  (matchesInside_closing.slash.blanks.letters "br".toList (by decide)).matchesTags

theorem matchesTags_anyTag : MatchesTags anyTag fun inside => !inside.isEmpty where
  at_bracket c s hc := by
    unfold anyTag
    split
    · next heq => exact absurd (List.cons.inj heq).1 hc
    · rfl
  inside inside rest hclosing := by
    cases inside with
    | nil => rfl
    | cons c cs =>
      have hc : c ≠ '>' := fun h => hclosing (h ▸ List.mem_cons_self)
      have hmatch := matchesInside_throughBracket (fun _ => true) (c :: cs) rest hclosing
      have hall : (c :: cs).all (fun _ => true) = true := List.all_eq_true.mpr fun _ _ => rfl
      rw [List.cons_append] at hmatch ⊢
      rw [anyTag, if_neg hc, hmatch, if_pos hall]
      rfl

/-- A fixed tag is found where it stands. -/
theorem matchesTags_literal {name : Text} (hname : '>' ∉ name) :
    MatchesTags (literal ('<' :: (name ++ ['>']))) (· == name) where
  at_bracket c s hc := by simp [literal, List.isPrefixOf_cons_cons, hc.symm]
  inside inside rest hclosing := by
    have hdelimited : (name ++ ['>']).isPrefixOf (inside ++ '>' :: rest) = (name == inside) := by
      rw [isPrefixOf_delimited hname hclosing [] rest, List.isPrefixOf_nil_left, Bool.and_true]
    rw [literal, List.isPrefixOf_cons_cons, hdelimited, beq_self_eq_true, Bool.true_and]
    by_cases heq : name = inside
    · rw [heq, beq_self_eq_true]
    · rw [beq_false_of_ne heq, beq_false_of_ne (Ne.symm heq)]
      rfl

/-! ## The text of an image -/

theorem altText?_all {w name : Text} (h : altText? w = some name) : ∀ c ∈ name, isAltChar c := by
  induction w with
  | nil => cases h
  | cons c cs ih =>
    unfold altText? at h
    split at h
    · exact ih h
    · simp only [] at h
      split at h
      · cases h
        intro d hd
        exact List.all_eq_true.mp List.all_takeWhile d hd
      · exact ih h

theorem ne_of_isAltChar {c d : Char} (hc : isAltChar c) (hd : isAltChar d = false) : c ≠ d := by
  rintro rfl
  rw [hc] at hd
  cases hd

/-- What an image stands for is made of characters of alternative texts. -/
theorem isAltChar_of_mem_emoteText {w s : Text} (h : emoteText w = .ok s) :
    ∀ c ∈ s, isAltChar c := by
  have hopening : "(((".toList.all isAltChar = true := by decide +kernel
  have hclosing : ")))".toList.all isAltChar = true := by decide +kernel
  rw [emoteText] at h
  split at h
  · cases h
    split
    · exact List.all_eq_true.mp hopening
    · exact List.all_eq_true.mp hclosing
  · split at h
    · next name hname =>
      cases h
      exact altText?_all hname
    · cases h

theorem not_mem_emoteText {w s : Text} (h : emoteText w = .ok s) {d : Char}
    (hd : isAltChar d = false) : d ∉ s := fun hmem =>
  ne_of_isAltChar (isAltChar_of_mem_emoteText h d hmem) hd rfl

/-! ## Token by token -/

namespace Token

/-- The text that a token is freed to, before its entities are read. -/
def plain? : Token → Except Failure Text
  | text s => .ok s
  | tag inside =>
    if isParagraph inside || isAnchor inside then .ok []
    else if isImage inside then emoteText (tag inside).spell
    else if isLineBreak inside then .ok ['\n']
    else .ok []

/-- The token without what is dropped before images are read. -/
def dropBlock (t : Token) : Token :=
  (t.replace isParagraph fun _ => []).replace isAnchor fun _ => []

/-- The token without what is dropped behind images. -/
def dropTag (t : Token) : Token :=
  (t.replace isLineBreak fun _ => ['\n']).replace (fun inside => !inside.isEmpty) fun _ => []

section Replace

variable {q : Text → Bool} {f : Text → Text} {inside : Text}

theorem replace_tag_of_pos (h : q inside = true) :
    (tag inside).replace q f = text (f (tag inside).spell) := if_pos h

theorem replace_tag_of_neg (h : ¬q inside = true) : (tag inside).replace q f = tag inside :=
  if_neg h

end Replace

theorem Sound.replace {q : Text → Bool} {f : Text → Text} {t : Token} (ht : t.Sound)
    (hf : ∀ w, '<' ∉ f w) : (t.replace q f).Sound := by
  cases t with
  | text s => exact ht
  | tag inside =>
    rw [Token.replace]
    split
    · exact hf _
    · exact ht

theorem Sound.replaceM_emoteText {t u : Token} (ht : t.Sound)
    (h : t.replaceM isImage emoteText = .ok u) : u.Sound := by
  cases t with
  | text s => cases h; exact ht
  | tag inside =>
    rw [Token.replaceM] at h
    split at h
    · cases hemote : emoteText (tag inside).spell with
      | error e => rw [hemote] at h; cases h
      | ok s =>
        rw [hemote] at h
        cases h
        exact not_mem_emoteText hemote (by decide +kernel)
    · cases h
      exact ht

theorem eq_tag_of_replace {q : Text → Bool} {f : Text → Text} {t : Token} {inside : Text}
    (h : t.replace q f = tag inside) : t = tag inside := by
  cases t with
  | text s => cases h
  | tag inside' =>
    rw [Token.replace] at h
    split at h
    · cases h
    · exact h

/-- The passes over a token come to what the token is freed to. -/
theorem plain?_eq {t : Token} (ht : t.Sound) :
    (fun u => u.dropTag.spell) <$> t.dropBlock.replaceM isImage emoteText = t.plain? := by
  cases t with
  | text s => rfl
  | tag inside =>
    obtain ⟨hne, -, -⟩ := ht
    have hany : (!inside.isEmpty) = true := by simp [hne]
    rw [plain?, dropBlock]
    by_cases hparagraph : isParagraph inside = true
    · rw [replace_tag_of_pos hparagraph, hparagraph]
      rfl
    by_cases hanchor : isAnchor inside = true
    · rw [replace_tag_of_neg hparagraph, replace_tag_of_pos hanchor, hanchor, Bool.or_true]
      rfl
    have hblock : ¬(isParagraph inside || isAnchor inside) = true := by simp [hparagraph, hanchor]
    rw [replace_tag_of_neg hparagraph, replace_tag_of_neg hanchor, replaceM, if_neg hblock]
    by_cases himage : isImage inside = true
    · rw [if_pos himage, if_pos himage]
      cases emoteText (tag inside).spell <;> rfl
    rw [if_neg himage, if_neg himage]
    show Except.ok (dropTag (tag inside)).spell = _
    rw [dropTag]
    by_cases hline : isLineBreak inside = true
    · rw [replace_tag_of_pos hline, if_pos hline]
      rfl
    · rw [replace_tag_of_neg hline, replace_tag_of_pos hany, if_neg hline]
      rfl

end Token

/-- Tokens without a certain tag are left alone when it is removed. -/
theorem removeFirst_spellAll (name : Text) (hname : '>' ∉ name) {ts : List Token}
    (hts : ∀ t ∈ ts, t.Sound) (habsent : tag name ∉ ts) :
    removeFirst ('<' :: (name ++ ['>'])) (spellAll ts) = spellAll ts := by
  refine removeFirst_eq_self fun v hv => ?_
  rw [pieces_spellAll (matchesTags_literal hname) hts, List.mem_flatMap] at hv
  obtain ⟨t, ht, hv⟩ := hv
  cases t with
  | text s => simp [Token.pieces] at hv
  | tag inside =>
    rw [Token.pieces] at hv
    split at hv
    · next hq =>
      rw [beq_iff_eq] at hq
      exact habsent (hq ▸ ht)
    · simp at hv

section Passes

variable {ts : List Token}

theorem sound_map_replace {q : Text → Bool} {f : Text → Text} (hts : ∀ t ∈ ts, t.Sound)
    (hf : ∀ w, '<' ∉ f w) : ∀ t ∈ ts.map (replace q f), t.Sound := by
  intro u hu
  obtain ⟨t, ht, rfl⟩ := List.mem_map.mp hu
  exact (hts t ht).replace hf

theorem sound_map_dropBlock (hts : ∀ t ∈ ts, t.Sound) : ∀ t ∈ ts.map dropBlock, t.Sound := by
  intro u hu
  obtain ⟨t, ht, rfl⟩ := List.mem_map.mp hu
  exact ((hts t ht).replace fun _ => List.not_mem_nil).replace fun _ => List.not_mem_nil

theorem not_mem_map_dropBlock {inside : Text} (habsent : tag inside ∉ ts) :
    tag inside ∉ ts.map dropBlock := by
  intro hmem
  obtain ⟨t, ht, heq⟩ := List.mem_map.mp hmem
  exact habsent (eq_tag_of_replace (eq_tag_of_replace heq) ▸ ht)

/-- What is dropped before images is dropped token by token. -/
theorem stripBlocks_spellAll (hts : ∀ t ∈ ts, t.Sound) (hopen : tag "kbd".toList ∉ ts)
    (hclose : tag "/kbd".toList ∉ ts) : stripBlocks (spellAll ts) = spellAll (ts.map dropBlock) := by
  have hanchors : removeAll anchorTag (removeAll paragraphTag (spellAll ts)) =
      spellAll (ts.map dropBlock) := by
    rw [removeAll, removeAll, replaceAll_spellAll matchesTags_paragraphTag _ hts,
      replaceAll_spellAll matchesTags_anchorTag _
        (sound_map_replace hts fun _ => List.not_mem_nil), List.map_map]
    rfl
  have hsound := sound_map_dropBlock hts
  rw [stripBlocks, hanchors]
  have hkbd : removeFirst "<kbd>".toList (spellAll (ts.map dropBlock)) =
      spellAll (ts.map dropBlock) :=
    removeFirst_spellAll "kbd".toList (by decide) hsound (not_mem_map_dropBlock hopen)
  rw [hkbd]
  exact removeFirst_spellAll "/kbd".toList (by decide) hsound
    (not_mem_map_dropBlock hclose)

/-- What is dropped behind images is dropped token by token. -/
theorem stripTags_spellAll (hts : ∀ t ∈ ts, t.Sound) :
    stripTags (spellAll ts) = ts.flatMap fun t => t.dropTag.spell := by
  rw [stripTags, removeAll, replaceAll_spellAll matchesTags_lineBreakTag _ hts,
    replaceAll_spellAll matchesTags_anyTag _ (sound_map_replace hts fun _ => by decide),
    List.map_map, spellAll, List.flatMap_map]
  rfl

theorem sound_of_mapM_emoteText {us : List Token} (hts : ∀ t ∈ ts, t.Sound)
    (h : ts.mapM (replaceM isImage emoteText) = .ok us) : ∀ u ∈ us, u.Sound := by
  induction ts generalizing us with
  | nil =>
    cases h
    exact fun u hu => nomatch hu
  | cons t ts ih =>
    rw [List.mapM_cons] at h
    cases htoken : replaceM isImage emoteText t with
    | error e => rw [htoken] at h; cases h
    | ok v =>
      cases hrest : ts.mapM (replaceM isImage emoteText) with
      | error e => rw [htoken, hrest] at h; cases h
      | ok vs =>
        rw [htoken, hrest] at h
        cases h
        intro u hu
        obtain rfl | hu := List.mem_cons.mp hu
        · exact (hts t List.mem_cons_self).replaceM_emoteText htoken
        · exact ih (fun t' ht' => hts t' (List.mem_cons_of_mem t ht')) hrest u hu

/-- The passes over tokens come to what the tokens are freed to, one after another. -/
theorem flatten_mapM_plain? (hts : ∀ t ∈ ts, t.Sound) :
    (fun us => us.flatMap fun u => u.dropTag.spell) <$>
        (ts.map dropBlock).mapM (replaceM isImage emoteText) =
      List.flatten <$> ts.mapM plain? := by
  induction ts with
  | nil => rfl
  | cons t ts ih =>
    have ih := ih fun t' ht' => hts t' (List.mem_cons_of_mem t ht')
    rw [List.map_cons, List.mapM_cons, List.mapM_cons, ← plain?_eq (hts t List.mem_cons_self)]
    -- the first token that fails is the same on both sides, as only images can fail
    cases replaceM isImage emoteText t.dropBlock with
    | error e => rfl
    | ok u =>
      cases hrest : (ts.map dropBlock).mapM (replaceM isImage emoteText) with
      | error e =>
        rw [hrest] at ih
        cases hplain : ts.mapM plain? <;> rw [hplain] at ih <;> cases ih
        rfl
      | ok us =>
        rw [hrest] at ih
        cases hplain : ts.mapM plain? <;> rw [hplain] at ih
        · cases ih
        · exact congrArg (fun r => (u.dropTag.spell ++ ·) <$> r) ih

/-- **Markup is freed of tags token by token**, where no tag marks a key. -/
theorem withoutTags_spellAll (hts : ∀ t ∈ ts, t.Sound) (hopen : tag "kbd".toList ∉ ts)
    (hclose : tag "/kbd".toList ∉ ts) :
    withoutTags (spellAll ts) = List.flatten <$> ts.mapM Token.plain? := by
  have hblocks := sound_map_dropBlock hts
  rw [withoutTags, stripBlocks_spellAll hts hopen hclose,
    replaceAllM_spellAll matchesTags_imageTag _ hblocks]
  rw [← flatten_mapM_plain? hts]
  cases himages : (ts.map dropBlock).mapM (replaceM isImage emoteText) with
  | error e => rfl
  | ok us => exact congrArg Except.ok (stripTags_spellAll (sound_of_mapM_emoteText hblocks himages))

end Passes

end Switchboard.Markup
