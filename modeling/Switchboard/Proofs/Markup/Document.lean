import Switchboard.Markup.Document
import Switchboard.Proofs.Markup.Escape
import Switchboard.Proofs.Markup.TagKind

/-!
# Documents are read back

The markup of a document is a sequence of sound tokens.  Each of them is freed to the escaped text
that a reader sees of it, so the whole is freed to the escaped text of the document, and reading the
entities gives that text.

* `Node.tokens`: the tokens of a part of a document.
* `emoteText_emote`, `emoteText_echo`: images stand for their names and brackets.
* `StandsFor`: sound tokens that are freed to an escaped text.
* `reduce_render`: reducing the markup of a document gives its text.
-/

namespace Switchboard.Markup

open Text Token

/-! ## Escaped texts -/

@[simp] theorem escape_append (s t : Text) : escape (s ++ t) = escape s ++ escape t :=
  List.flatMap_append

theorem not_mem_escape (s : Text) : '<' ∉ escape s := by
  intro h
  obtain ⟨d, -, hd⟩ := List.mem_flatMap.mp h
  unfold escapeChar at hd
  split at hd
  iterate 5 revert hd; decide
  · next hopening _ _ _ => exact hopening (List.mem_singleton.mp hd).symm

/-- Characters of alternative texts need not be escaped. -/
theorem escape_eq_self {s : Text} (h : ∀ c ∈ s, isAltChar c) : escape s = s := by
  induction s with
  | nil => rfl
  | cons c cs ih =>
    have hc : isAltChar c = true := h c List.mem_cons_self
    have hchar : escapeChar c = [c] := by
      unfold escapeChar
      split
      iterate 5 exact absurd hc (by decide +kernel)
      · rfl
    rw [escape, List.flatMap_cons, ← escape, hchar, ih fun d hd => h d (List.mem_cons_of_mem c hd)]
    rfl

/-! ## Images -/

/-- The inside of an image tag of attributes. -/
def imageInside (attributes : List (String × Text)) : Text :=
  "img".toList ++
    attributes.flatMap fun a => ' ' :: a.1.toList ++ "=\"".toList ++ a.2 ++ ['"']

/-- The inside of an emote. -/
def emoteInside (name source : Text) : Text := imageInside [("alt", name), ("src", source)]

/-- The inside of an echo. -/
def echoInside (mirrored : Bool) (source : Text) : Text :=
  imageInside (("alt", "echo".toList) ::
    (if mirrored then [("style", "transform: scaleX(-1)".toList)] else []) ++ [("src", source)])

theorem isAnchorChar_of_isAltChar {c : Char} (h : isAltChar c) : isAnchorChar c := by
  simp only [isAltChar, Bool.or_eq_true, beq_iff_eq] at h
  obtain ((hword | rfl) | rfl) | rfl := h
  · rw [isAnchorChar, hword, Bool.true_or, Bool.true_or]
  · decide +kernel
  · decide +kernel
  · decide +kernel

theorem toNat_lt_of_isAlphanum {c : Char} (h : c.isAlphanum) : c.toNat < 128 := by
  have hz : 'z'.val.toNat = 122 := rfl
  have hZ : 'Z'.val.toNat = 90 := rfl
  have h9 : '9'.val.toNat = 57 := rfl
  delta Char.isAlphanum Char.isAlpha Char.isUpper Char.isLower Char.isDigit at h
  simp only [Bool.or_eq_true, Bool.and_eq_true, decide_eq_true_eq, UInt32.le_iff_toNat_le,
    ge_iff_le, hz, hZ, h9] at h
  rw [← Char.toNat_val]
  omega

theorem isAnchorChar_of_isSourceChar {c : Char} (h : Node.isSourceChar c) : isAnchorChar c := by
  rw [Node.isSourceChar, Bool.or_eq_true] at h
  obtain halphanum | hmark := h
  · have hword : isWord c = true := by
      rw [isWord, if_pos (toNat_lt_of_isAlphanum halphanum), halphanum, Bool.true_or]
    rw [isAnchorChar, hword, Bool.true_or, Bool.true_or]
  · have hmarks : "/.:-_?=%+".toList.all isAnchorChar = true := by decide +kernel
    exact List.all_eq_true.mp hmarks c (List.contains_iff_mem.mp hmark)

theorem spell_emoteInside (name source : Text) : (tag (emoteInside name source)).spell =
    "<img alt=".toList ++ '"' :: (name ++ '"' :: (" src=".toList ++ '"' :: (source ++ '"' :: ['>'])))
    := by
  simp [emoteInside, imageInside, spell]

/-- A text in quotes is the alternative text that starts there. -/
theorem altText?_quoted {name : Text} (hne : name ≠ []) (hname : ∀ c ∈ name, isAltChar c)
    (rest : Text) : altText? ("alt=\"".toList ++ (name ++ '"' :: rest)) = some name := by
  have hquote : ¬isAltChar '"' = true := by decide +kernel
  have hread : (name ++ '"' :: rest).takeWhile isAltChar = name := by
    rw [List.takeWhile_append_of_pos hname, List.takeWhile_cons_of_neg hquote, List.append_nil]
  have hdrop : dropPrefix? "alt=\"".toList ("alt=\"".toList ++ (name ++ '"' :: rest)) =
      some (name ++ '"' :: rest) := dropPrefix?_eq_some_iff.mpr rfl
  have hstep : "alt=\"".toList ++ (name ++ '"' :: rest) =
      'a' :: ("lt=\"".toList ++ (name ++ '"' :: rest)) := rfl
  rw [hstep] at hdrop ⊢
  rw [altText?, hdrop]
  simp only [hread, List.drop_left]
  rw [if_pos ⟨hne, rfl⟩]

theorem emoteText_emote {name source : Text} (hne : name ≠ []) (hecho : name ≠ "echo".toList)
    (hname : ∀ c ∈ name, isAltChar c) (hsource : ∀ c ∈ source, Node.isSourceChar c) :
    emoteText (tag (emoteInside name source)).spell = .ok name := by
  have hquote : '"' ∉ name := fun h => ne_of_isAltChar (hname _ h) (by decide +kernel) rfl
  have hequals : '=' ∉ name := fun h => ne_of_isAltChar (hname _ h) (by decide +kernel) rfl
  have hquote' : '"' ∉ source := fun h => absurd (hsource _ h) (by decide +kernel)
  have hnot : occursIn "alt=\"echo\"".toList (tag (emoteInside name source)).spell = false := by
    -- the wanted text has a quote inside, so it could only stand around one of the quotes of the tag
    have hwanted : "alt=\"echo\"".toList = "alt=".toList ++ '"' :: "echo\"".toList := by decide
    have hname' : "alt=".toList.isSuffixOf name = false := by
      refine Bool.eq_false_iff.mpr fun hsuffix => hequals ?_
      exact (List.isSuffixOf_iff_suffix.mp hsuffix).subset (by decide)
    have hecho' : "echo\"".toList.isPrefixOf
        (name ++ '"' :: (" src=".toList ++ '"' :: (source ++ '"' :: ['>']))) = false := by
      have hdelimited := isPrefixOf_delimited (d := '"') (u := "echo".toList) (by decide) hquote []
        (" src=".toList ++ '"' :: (source ++ '"' :: ['>']))
      rw [beq_false_of_ne (Ne.symm hecho), Bool.false_and] at hdelimited
      exact hdelimited
    rw [spell_emoteInside, hwanted, occursIn_delimited (by decide) (by decide) (by decide), hecho',
      occursIn_delimited (by decide) (by decide) hquote, hname',
      occursIn_delimited (by decide) (by decide) (by decide),
      occursIn_delimited (by decide) (by decide) hquote']
    have hsource' : "alt=".toList.isSuffixOf " src=".toList = false := by decide
    have hend : "echo\"".toList.isPrefixOf ['>'] = false := by decide
    have hlast : occursIn ("alt=".toList ++ '"' :: "echo\"".toList) ['>'] = false := by decide
    rw [hsource', hend, hlast, Bool.and_false, Bool.false_and, Bool.false_and, Bool.and_false]
    rfl
  have halt : altText? (tag (emoteInside name source)).spell = some name := by
    have hspell : (tag (emoteInside name source)).spell = "<img ".toList ++
        ("alt=\"".toList ++ (name ++ '"' :: (" src=\"".toList ++ source ++ "\">".toList))) := by
      simp [emoteInside, imageInside, spell]
    have hskip (s : Text) : altText? ("<img ".toList ++ s) = altText? s := rfl
    rw [hspell, hskip, altText?_quoted hne hname]
  rw [emoteText, hnot, if_neg Bool.false_ne_true, halt]

theorem emoteText_echo {mirrored : Bool} {source : Text}
    (hsource : ∀ c ∈ source, Node.isSourceChar c) :
    emoteText (tag (echoInside mirrored source)).spell =
      .ok (if mirrored then "(((".toList else ")))".toList) := by
  have hecho : occursIn "alt=\"echo\"".toList (tag (echoInside mirrored source)).spell = true := rfl
  have hmirrored : occursIn "scaleX(-1)".toList (tag (echoInside mirrored source)).spell = mirrored := by
    cases mirrored with
    | true => rfl
    | false =>
      -- sources have no round brackets, so only the style could hold the transformation
      have hbracket : '(' ∉ (tag (echoInside false source)).spell := by
        have hspell : (tag (echoInside false source)).spell =
            "<img alt=\"echo\" src=\"".toList ++ source ++ "\">".toList := by
          simp [echoInside, imageInside, spell]
        rw [hspell, List.mem_append, List.mem_append]
        rintro ((hmem | hmem) | hmem)
        · revert hmem; decide
        · exact absurd (hsource _ hmem) (by decide +kernel)
        · revert hmem; decide
      exact Bool.eq_false_iff.mpr fun hoccurs => hbracket (mem_of_occursIn hoccurs (by decide))
  rw [emoteText, if_pos hecho, hmirrored]

/-! ## Tokens of documents -/

mutual

/-- The tokens of a part of a document. -/
def Node.tokens : Node → List Token
  | .text s => [.text (escape s)]
  | .lineBreak closed => [tag (if closed then "br/".toList else "br".toList)]
  | .emote name source => [tag (emoteInside name source)]
  | .echo mirrored source => [tag (echoInside mirrored source)]
  | .link target children =>
    tag ("a href=\"".toList ++ target ++ "\" target=\"_blank\"".toList) ::
      (Node.tokensAll children ++ [tag "/a".toList])
  | .paragraph children => tag ['p'] :: (Node.tokensAll children ++ [tag "/p".toList])

/-- The tokens of parts in order. -/
def Node.tokensAll : List Node → List Token
  | [] => []
  | n :: ns => n.tokens ++ Node.tokensAll ns

end

theorem spellAll_append (ts us : List Token) : spellAll (ts ++ us) = spellAll ts ++ spellAll us :=
  List.flatMap_append

theorem spellAll_cons (t : Token) (ts : List Token) : spellAll (t :: ts) = t.spell ++ spellAll ts :=
  List.flatMap_cons

theorem spellAll_singleton (t : Token) : spellAll [t] = t.spell := List.flatMap_singleton _ _

mutual

theorem spellAll_tokens (n : Node) : spellAll n.tokens = n.render := by
  cases n with
  | text s => exact spellAll_singleton _
  | lineBreak closed => cases closed <;> rfl
  | emote name source =>
    rw [Node.tokens, spellAll_singleton]
    rfl
  | echo mirrored source =>
    rw [Node.tokens, spellAll_singleton]
    rfl
  | link target children =>
    have hrender : (Node.link target children).render = "<a href=\"".toList ++ target ++
        "\" target=\"_blank\">".toList ++ Node.renderAll children ++ "</a>".toList := rfl
    rw [Node.tokens, spellAll_cons, spellAll_append, spellAll_tokensAll children,
      spellAll_singleton, hrender]
    simp [spell]
  | paragraph children =>
    rw [Node.tokens, spellAll_cons, spellAll_append, spellAll_tokensAll children]
    rfl

theorem spellAll_tokensAll (ns : List Node) : spellAll (Node.tokensAll ns) = Node.renderAll ns := by
  cases ns with
  | nil => rfl
  | cons n ns =>
    rw [Node.tokensAll, spellAll_append, spellAll_tokens n, spellAll_tokensAll ns, Node.renderAll]

end

/-! ## What tokens stand for -/

/-- Sound tokens, none of which marks a key, that are freed to an escaped text. -/
structure StandsFor (ts : List Token) (s : Text) : Prop where
  sound : ∀ t ∈ ts, t.Sound
  no_key : tag "kbd".toList ∉ ts ∧ tag "/kbd".toList ∉ ts
  plain : List.flatten <$> ts.mapM Token.plain? = .ok (escape s)

namespace StandsFor

protected theorem nil : StandsFor [] [] where
  sound _ ht := nomatch ht
  no_key := ⟨List.not_mem_nil, List.not_mem_nil⟩
  plain := rfl

protected theorem append {ts us : List Token} {s v : Text} (h : StandsFor ts s)
    (h' : StandsFor us v) : StandsFor (ts ++ us) (s ++ v) where
  sound t ht := (List.mem_append.mp ht).elim (h.sound t) (h'.sound t)
  no_key :=
    ⟨fun ht => (List.mem_append.mp ht).elim h.no_key.1 h'.no_key.1,
      fun ht => (List.mem_append.mp ht).elim h.no_key.2 h'.no_key.2⟩
  plain := by
    rw [flatten_mapM_append, h.plain, h'.plain, escape_append]
    rfl

/-- A token for a text in which nothing need be escaped. -/
theorem of_tag {inside s : Text} (hne : inside ≠ []) (hopening : '<' ∉ inside)
    (hclosing : '>' ∉ inside) (hkey : inside ≠ "kbd".toList ∧ inside ≠ "/kbd".toList)
    (hplain : (tag inside).plain? = .ok (escape s)) : StandsFor [tag inside] s where
  sound t ht := by
    rw [List.mem_singleton.mp ht]
    exact ⟨hne, hopening, hclosing⟩
  no_key := by
    simp only [List.mem_singleton, tag.injEq]
    exact ⟨Ne.symm hkey.1, Ne.symm hkey.2⟩
  plain := by
    rw [List.mapM_cons, hplain]
    exact congrArg Except.ok (List.append_nil _)

theorem of_text (s : Text) : StandsFor [.text (escape s)] s where
  sound t ht := by
    rw [List.mem_singleton.mp ht]
    exact not_mem_escape s
  no_key := by simp
  plain := congrArg Except.ok (List.append_nil _)

end StandsFor

/-! ## Documents -/

/-- What an image tag may hold and a sound token too. -/
def InImage (c : Char) : Prop := isAnchorChar c ∧ c ≠ '<' ∧ c ≠ '>'

theorem inImage_of_isAltChar {c : Char} (h : isAltChar c) : InImage c :=
  ⟨isAnchorChar_of_isAltChar h, ne_of_isAltChar h (by decide +kernel),
    ne_of_isAltChar h (by decide +kernel)⟩

theorem inImage_of_isSourceChar {c : Char} (h : Node.isSourceChar c) : InImage c := by
  refine ⟨isAnchorChar_of_isSourceChar h, ?_, ?_⟩
  · rintro rfl
    exact absurd h (by decide +kernel)
  · rintro rfl
    exact absurd h (by decide +kernel)

theorem inImage_of_mem {s : Text} (h : s.all fun c => isAnchorChar c && c != '<' && c != '>') :
    ∀ c ∈ s, InImage c := by
  intro c hc
  have hall := List.all_eq_true.mp h c hc
  simp only [Bool.and_eq_true, bne_iff_ne] at hall
  exact ⟨hall.1.1, hall.1.2, hall.2⟩

theorem inImage_imageInside {attributes : List (String × Text)}
    (h : ∀ a ∈ attributes, (∀ c ∈ a.1.toList, InImage c) ∧ ∀ c ∈ a.2, InImage c) :
    ∀ c ∈ imageInside attributes, InImage c := by
  have hmarks : ∀ c ∈ "img =\"".toList, InImage c := inImage_of_mem (by decide +kernel)
  intro c hc
  rw [imageInside, List.mem_append, List.mem_flatMap] at hc
  obtain hc | ⟨a, ha, hc⟩ := hc
  · exact hmarks c (List.mem_append_left " =\"".toList hc)
  · simp only [List.mem_append, List.mem_cons, List.not_mem_nil, or_false] at hc
    obtain ((hc | hc) | hc) | hc := hc
    · obtain rfl | hc := hc
      · exact hmarks _ (by decide)
      · exact (h a ha).1 c hc
    · exact hmarks c (List.mem_append_right "img ".toList hc)
    · exact (h a ha).2 c hc
    · exact hc ▸ hmarks _ (by decide)

theorem standsFor_image {attributes : List (String × Text)} {s : Text}
    (h : ∀ a ∈ attributes, (∀ c ∈ a.1.toList, InImage c) ∧ ∀ c ∈ a.2, InImage c)
    (hemote : emoteText (tag (imageInside attributes)).spell = .ok s) (hescape : escape s = s) :
    StandsFor [tag (imageInside attributes)] s := by
  have hchars := inImage_imageInside h
  have himage : isImage (imageInside attributes) = true := by
    have hrest : isImage (imageInside attributes) =
        ((imageInside attributes).drop "img".length).all isAnchorChar := rfl
    rw [hrest, List.all_eq_true]
    exact fun c hc => (hchars c (List.mem_of_mem_drop hc)).1
  have hblock : (isParagraph (imageInside attributes) || isAnchor (imageInside attributes)) = false :=
    rfl
  refine .of_tag ?_ (fun hc => (hchars _ hc).2.1 rfl) (fun hc => (hchars _ hc).2.2 rfl) ?_ ?_
  · exact List.cons_ne_nil _ _
  · constructor <;> intro heq <;> cases heq
  · rw [Token.plain?, hblock, himage, hescape]
    exact hemote

/-- A tag of which nothing is seen stands for nothing. -/
theorem standsFor_nothing {inside : Text} (hne : inside ≠ []) (hopening : '<' ∉ inside)
    (hclosing : '>' ∉ inside) (hkey : inside ≠ "kbd".toList ∧ inside ≠ "/kbd".toList)
    (himage : isImage inside = false) (hline : isLineBreak inside = false) :
    StandsFor [tag inside] [] := by
  refine .of_tag hne hopening hclosing hkey ?_
  rw [Token.plain?, himage, hline]
  cases isParagraph inside || isAnchor inside <;> rfl

theorem standsFor_emote {name source : Text} (hne : name ≠ []) (hecho : name ≠ "echo".toList)
    (hname : ∀ c ∈ name, isAltChar c) (hsource : ∀ c ∈ source, Node.isSourceChar c) :
    StandsFor [tag (emoteInside name source)] name := by
  refine standsFor_image ?_ (emoteText_emote hne hecho hname hsource) (escape_eq_self hname)
  intro a ha
  simp only [List.mem_cons, List.not_mem_nil, or_false] at ha
  obtain rfl | rfl := ha
  · exact ⟨inImage_of_mem (s := "alt".toList) (by decide +kernel),
      fun c hc => inImage_of_isAltChar (hname c hc)⟩
  · exact ⟨inImage_of_mem (s := "src".toList) (by decide +kernel),
      fun c hc => inImage_of_isSourceChar (hsource c hc)⟩

theorem standsFor_echo {mirrored : Bool} {source : Text}
    (hsource : ∀ c ∈ source, Node.isSourceChar c) :
    StandsFor [tag (echoInside mirrored source)]
      (if mirrored then "(((".toList else ")))".toList) := by
  refine standsFor_image ?_ (emoteText_echo hsource) ?_
  · have hfixed : ∀ a ∈ [("alt", "echo".toList), ("style", "transform: scaleX(-1)".toList)],
        (∀ c ∈ a.1.toList, InImage c) ∧ ∀ c ∈ a.2, InImage c := by
      intro a ha
      simp only [List.mem_cons, List.not_mem_nil, or_false] at ha
      obtain rfl | rfl := ha
      · exact ⟨inImage_of_mem (by decide +kernel), inImage_of_mem (by decide +kernel)⟩
      · exact ⟨inImage_of_mem (by decide +kernel), inImage_of_mem (by decide +kernel)⟩
    intro a ha
    obtain ha | ha := List.mem_append.mp ha
    · refine hfixed a ?_
      cases mirrored with
      | true => exact ha
      | false => exact List.mem_cons.mpr (.inl (List.mem_singleton.mp ha))
    · rw [List.mem_singleton.mp ha]
      exact ⟨inImage_of_mem (s := "src".toList) (by decide +kernel),
        fun c hc => inImage_of_isSourceChar (hsource c hc)⟩
  · cases mirrored <;> decide

/-- An anchor stands for nothing, whether or not its target is one that the pattern for anchors
knows. -/
theorem standsFor_anchor {target : Text} (hopening : '<' ∉ target) (hclosing : '>' ∉ target) :
    StandsFor [tag ("a href=\"".toList ++ target ++ "\" target=\"_blank\"".toList)] [] := by
  refine standsFor_nothing (List.cons_ne_nil _ _) ?_ ?_ ?_ rfl rfl
  · simpa using hopening
  · simpa using hclosing
  · constructor <;> intro heq <;> cases heq

/-- Tags that stand for nothing may stand around others. -/
theorem StandsFor.within {ts : List Token} {s before after : Text} (h : StandsFor ts s)
    (hbefore : StandsFor [tag before] []) (hafter : StandsFor [tag after] []) :
    StandsFor (tag before :: (ts ++ [tag after])) s := by
  have hall := hbefore.append (h.append hafter)
  rw [List.append_nil] at hall
  exact hall

mutual

/-- The tokens of a part of a document stand for what a reader sees of it. -/
theorem standsFor_tokens : ∀ n : Node, n.Valid → StandsFor n.tokens n.plain
  | .text s, _ => .of_text s
  | .lineBreak closed, _ => by
    cases closed <;> exact .of_tag (by decide) (by decide) (by decide) (by decide) rfl
  | .emote _ _, ⟨hne, hecho, hname, hsource⟩ => standsFor_emote hne hecho hname hsource
  | .echo _ _, hsource => standsFor_echo hsource
  | .link _ children, ⟨hopening, hclosing, hchildren⟩ =>
    (standsFor_tokensAll children hchildren).within (standsFor_anchor hopening hclosing)
      (standsFor_nothing (by decide) (by decide) (by decide) (by decide) rfl rfl)
  | .paragraph children, hchildren =>
    (standsFor_tokensAll children hchildren).within
      (standsFor_nothing (by decide) (by decide) (by decide) (by decide) rfl rfl)
      (standsFor_nothing (by decide) (by decide) (by decide) (by decide) rfl rfl)

theorem standsFor_tokensAll : ∀ ns : List Node, Node.ValidAll ns →
    StandsFor (Node.tokensAll ns) (Node.plainAll ns)
  | [], _ => .nil
  | n :: ns, ⟨hn, hns⟩ => (standsFor_tokens n hn).append (standsFor_tokensAll ns hns)

end

theorem reduce_spellAll {ts : List Token} {s : Text} (h : StandsFor ts s) :
    reduce (spellAll ts) = .ok (trim s) := by
  have hplain := withoutTags_spellAll h.sound h.no_key.1 h.no_key.2
  rw [h.plain] at hplain
  rw [reduce, hplain]
  exact congrArg (fun t => Except.ok (trim t)) (unescape_escape s)

theorem valid_of_mem : ∀ {ns : List Node}, Node.ValidAll ns → ∀ n ∈ ns, n.Valid
  | _ :: _, ⟨hn, hns⟩, m, hm => by
    obtain rfl | hm := List.mem_cons.mp hm
    · exact hn
    · exact valid_of_mem hns m hm

/-- **Reducing the markup of a document gives the text that a reader sees of it**, without blanks at
its ends.  This holds of a document of any parts and of each part by itself, whatever its texts spell
and wherever its links lead. -/
theorem reduce_render (ns : List Node) (h : Node.ValidAll ns) :
    reduce (Node.renderAll ns) = .ok (trim (Node.plainAll ns)) ∧
      ∀ n ∈ ns, reduce n.render = .ok (trim n.plain) := by
  constructor
  · rw [← spellAll_tokensAll]
    exact reduce_spellAll (standsFor_tokensAll ns h)
  · intro n hn
    rw [← spellAll_tokens]
    exact reduce_spellAll (standsFor_tokens n (valid_of_mem h n hn))

/-- Entities that look like tags and are cut in two, a target that no pattern knows, and a source
that looks like the start of an echo. -/
def note : List Node :=
  [.paragraph
    [.text " <b> &lt; 'q' &am".toList, .emote ":wave:".toList "alt=".toList, .text "p;".toList,
      .link "a~\"&\nb".toList [.echo true "echo".toList, .lineBreak true, .text "&nbsp;".toList]],
    .echo false "".toList, .text "\n".toList]

theorem reduce_render_note : Node.ValidAll note ∧
    reduce (Node.renderAll note) =
      .ok "<b> &lt; 'q' &am:wave:p;(((\n&nbsp;)))".toList := by
  have hsource : "echo".toList.all Node.isSourceChar = true := by decide +kernel
  have hname : ":wave:".toList.all isAltChar = true := by decide +kernel
  have hsource' : "alt=".toList.all Node.isSourceChar = true := by decide +kernel
  have hlink : (Node.link "a~\"&\nb".toList
      [.echo true "echo".toList, .lineBreak true, .text "&nbsp;".toList]).Valid :=
    ⟨by decide, by decide, List.all_eq_true.mp hsource, trivial, trivial, trivial⟩
  have hwave : (Node.emote ":wave:".toList "alt=".toList).Valid :=
    ⟨by decide, by decide, List.all_eq_true.mp hname, List.all_eq_true.mp hsource'⟩
  have hvalid : Node.ValidAll note :=
    ⟨⟨trivial, hwave, trivial, hlink, trivial⟩, fun c hc => (nomatch hc), trivial, trivial⟩
  refine ⟨hvalid, (reduce_render note hvalid).1.trans ?_⟩
  exact congrArg Except.ok (by decide +kernel)

end Switchboard.Markup
