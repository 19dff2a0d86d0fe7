import Switchboard.Proofs.Markup.Escape
import Switchboard.Proofs.Markup.TagKind
import Switchboard.Proofs.Text.Replace
import Switchboard.Proofs.Text.Split

/-!
# Texts without tags

The last pass over the tags drops any tag.  What it leaves has none, although tags that are dropped
may stand in others: an opening bracket that is left had no closing one behind it, or had it right
behind it, and so it still has.  In a text without tags no pattern of the reduction finds anything, so
reducing it again does nothing, unless it has entities.

* `TagFree`: no opening bracket with a closing one and something in between behind it.
* `tagFree_removeAll`: dropping all tags leaves none.
* `withoutTags_eq_self`: a text without tags is left alone.
* `reduce_tagFree`: reduced texts are free of tags but for those that entities make.
-/

namespace Switchboard.Markup

open Text

/-! ## Tags in a text -/

/-- Wherever the text has an opening bracket and a closing one behind it, the first closing one is
right behind. -/
def TagFree (s : Text) : Prop :=
  ∀ before inside after, s = before ++ '<' :: (inside ++ '>' :: after) → '>' ∉ inside → inside = []

theorem tagFree_cons_iff {c : Char} {s : Text} :
    TagFree (c :: s) ↔ TagFree s ∧ (c = '<' → '>' ∈ s → s.head? = some '>') := by
  constructor
  · intro h
    refine ⟨fun before inside after hs => h (c :: before) inside after (by rw [hs]; rfl), ?_⟩
    rintro rfl hclose
    obtain ⟨inside, after, rfl, hinside⟩ := List.eq_append_cons_of_mem hclose
    rw [h [] inside after rfl hinside]
    rfl
  · rintro ⟨hs, hstart⟩ before inside after heq hinside
    cases before with
    | cons b before => exact hs before inside after (List.cons.inj heq).2 hinside
    | nil =>
      obtain ⟨rfl, rfl⟩ := List.cons.inj heq
      have hhead := hstart rfl (by simp)
      cases inside with
      | nil => rfl
      | cons d inside => simp_all

theorem tagFree_nil : TagFree [] := by
  intro before inside after h
  simp at h

theorem tagFree_of_not_mem {s : Text} (h : '<' ∉ s) : TagFree s := by
  intro before inside after hs
  rw [hs] at h
  simp at h

theorem TagFree.of_append {s t : Text} (h : TagFree (s ++ t)) : TagFree s ∧ TagFree t := by
  constructor
  · intro before inside after hs
    exact h before inside (after ++ t) (by simp [hs])
  · intro before inside after ht
    exact h (s ++ before) inside after (by simp [ht])

theorem TagFree.trim {s : Text} (h : TagFree s) : TagFree s.trim := by
  obtain ⟨lead, trail, hs⟩ := exists_trim_append s
  rw [hs] at h
  exact h.of_append.1.of_append.2

/-! ## Dropping all tags -/

theorem throughBracket_eq_some {within : Char → Bool} {s w : Text}
    (h : throughBracket within s = some w) : w ≠ [] ∧ w <+: s := by
  induction s generalizing w with
  | nil => cases h
  | cons c cs ih =>
    rw [throughBracket] at h
    split at h
    · next hc =>
      cases h
      simp [hc]
    · split at h
      · obtain ⟨v, hv, rfl⟩ := Option.map_eq_some_iff.mp h
        simpa using (ih hv).2
      · cases h

theorem proper_anyTag : Pattern.Proper anyTag := by
  intro s w h
  unfold anyTag at h
  split at h
  · split at h
    · cases h
    · obtain ⟨v, hv, rfl⟩ := Option.map_eq_some_iff.mp h
      simpa using (throughBracket_eq_some hv).2
  · cases h

/-- Where no tag starts, an opening bracket has no closing one behind it, or right behind it. -/
theorem head?_of_anyTag_eq_none {s : Text} (h : anyTag ('<' :: s) = none) (hclose : '>' ∈ s) :
    s.head? = some '>' := by
  obtain ⟨inside, after, rfl, hinside⟩ := List.eq_append_cons_of_mem hclose
  rw [matchesTags_anyTag.inside inside after hinside] at h
  cases inside with
  | nil => rfl
  | cons c cs => simp at h

/-- **Dropping all tags leaves none.** -/
theorem tagFree_removeAll (s : Text) : TagFree (removeAll anyTag s) := by
  refine proper_anyTag.induction (motive := fun s => TagFree (removeAll anyTag s)) tagFree_nil ?_ ?_ s
  · intro c cs hnone ih
    rw [removeAll, replaceAll_cons_of_none hnone, tagFree_cons_iff]
    refine ⟨ih, ?_⟩
    rintro rfl hclose
    have hmem : '>' ∈ cs := by simpa using mem_replaceAll hclose
    obtain ⟨d, ds, rfl⟩ := List.exists_cons_of_ne_nil (List.ne_nil_of_mem hmem)
    -- the closing bracket right behind starts no tag, so it stays where it is
    obtain rfl : d = '>' := by simpa using head?_of_anyTag_eq_none hnone hmem
    rw [replaceAll_cons_of_none (matchesTags_anyTag.at_bracket '>' ds (by decide))]
    rfl
  · intro w rest hw hsome ih
    rw [removeAll, replaceAll_append_of_some hw hsome]
    exact ih

theorem exists_of_withoutTags {s t : Text} (h : withoutTags s = .ok t) :
    ∃ u, replaceAllM imageTag emoteText (stripBlocks s) = .ok u ∧ t = stripTags u := by
  rw [withoutTags] at h
  cases himages : replaceAllM imageTag emoteText (stripBlocks s) with
  | error e => rw [himages] at h; cases h
  | ok u =>
    rw [himages] at h
    exact ⟨u, rfl, (Except.ok.inj h).symm⟩

theorem tagFree_of_withoutTags {s t : Text} (h : withoutTags s = .ok t) : TagFree t := by
  obtain ⟨u, -, rfl⟩ := exists_of_withoutTags h
  exact tagFree_removeAll _

/-! ## Texts that are left alone -/

/-- Without a closing bracket the pattern matches nothing. -/
def NeedsClosing (p : Pattern) : Prop := ∀ s, '>' ∉ s → p s = none

theorem NeedsClosing.andThen {q : Pattern} (h : NeedsClosing q) (p : Pattern) :
    NeedsClosing (Markup.andThen p q) := by
  intro s hs
  cases hp : p s with
  | none => exact andThen_of_none hp
  | some v =>
    have hnone : q (s.drop v.length) = none := h _ fun hmem => hs (List.mem_of_mem_drop hmem)
    rw [andThen_of_some hp, hnone]
    rfl

theorem needsClosing_throughBracket (within : Char → Bool) :
    NeedsClosing (throughBracket within) := by
  intro s hs
  induction s with
  | nil => rfl
  | cons c cs ih =>
    rw [List.mem_cons, not_or] at hs
    rw [throughBracket, if_neg (Ne.symm hs.1), ih hs.2]
    simp

theorem needsClosing_literal {w : Text} (hw : '>' ∈ w) : NeedsClosing (literal w) := by
  intro s hs
  rw [literal, if_neg]
  intro h
  exact hs ((List.isPrefixOf_iff_prefix.mp h).subset hw)

theorem needsClosing_anyTag : NeedsClosing anyTag := by
  intro s hs
  unfold anyTag
  split
  · next c cs =>
    rw [needsClosing_throughBracket _ (c :: cs) (fun h => hs (List.mem_cons_of_mem _ h))]
    simp
  · rfl

/-- In a text without tags a pattern for tags finds nothing. -/
theorem pieces_eq_plain {p : Pattern} {q : Text → Bool} (h : MatchesTags p q)
    (hclosing : NeedsClosing p) (hempty : q [] = false) {s : Text} (hs : TagFree s) :
    pieces p s = s.map .plain := by
  induction s with
  | nil => rfl
  | cons c cs ih =>
    obtain ⟨htail, hstart⟩ := tagFree_cons_iff.mp hs
    have hnone : p (c :: cs) = none := by
      by_cases hc : c = '<'
      · subst hc
        by_cases hclose : '>' ∈ cs
        · obtain ⟨d, ds, rfl⟩ := List.exists_cons_of_ne_nil (List.ne_nil_of_mem hclose)
          obtain rfl : d = '>' := by simpa using hstart rfl hclose
          have hinside := h.inside [] ds (by simp)
          rw [hempty] at hinside
          simpa using hinside
        · exact hclosing _ (by simpa using hclose)
      · exact h.at_bracket c cs hc
    rw [pieces_cons_of_none hnone, ih htail]
    rfl

theorem replaceAll_eq_self {p : Pattern} {s : Text} (h : pieces p s = s.map .plain)
    (f : Text → Text) : replaceAll p f s = s := by
  rw [replaceAll, h]
  exact flatMap_map_plain f s

theorem removeFirst_eq_self_of_tagFree (name : Text) (hname : '>' ∉ name) (hne : name ≠ [])
    {s : Text} (hs : TagFree s) : removeFirst ('<' :: (name ++ ['>'])) s = s := by
  refine removeFirst_eq_self fun v hv => ?_
  have hempty : (([] : Text) == name) = false := by simpa using hne.symm
  rw [pieces_eq_plain (matchesTags_literal hname) (needsClosing_literal (by simp)) hempty hs] at hv
  simp at hv

/-- **A text without tags is left alone.** -/
theorem withoutTags_eq_self {s : Text} (h : TagFree s) : withoutTags s = .ok s := by
  have hparagraph := pieces_eq_plain matchesTags_paragraphTag
    ((((needsClosing_throughBracket _).andThen _).andThen _).andThen _) rfl h
  have hanchor := pieces_eq_plain matchesTags_anchorTag
    ((((needsClosing_throughBracket _).andThen _).andThen _).andThen _) rfl h
  have himage := pieces_eq_plain matchesTags_imageTag
    (((needsClosing_throughBracket _).andThen _).andThen _) rfl h
  have hline := pieces_eq_plain matchesTags_lineBreakTag
    (((((needsClosing_literal (by simp)).andThen _).andThen _).andThen _).andThen _) rfl h
  have hany := pieces_eq_plain matchesTags_anyTag needsClosing_anyTag rfl h
  have hopen : removeFirst "<kbd>".toList s = s :=
    removeFirst_eq_self_of_tagFree "kbd".toList (by decide) (by decide) h
  have hclose : removeFirst "</kbd>".toList s = s :=
    removeFirst_eq_self_of_tagFree "/kbd".toList (by decide) (by decide) h
  have hblocks : stripBlocks s = s := by
    rw [stripBlocks, removeAll, removeAll, replaceAll_eq_self hparagraph,
      replaceAll_eq_self hanchor, hopen, hclose]
  have htags : stripTags s = s := by
    rw [stripTags, removeAll, replaceAll_eq_self hline, replaceAll_eq_self hany]
  have himages : replaceAllM imageTag emoteText s = .ok s := by
    rw [replaceAllM, himage]
    exact flatten_mapM_map_plain (fun c => rfl) s
  rw [withoutTags, hblocks, himages]
  exact congrArg Except.ok htags

/-! ## Entities -/

/-- No pass over the tags writes an ampersand. -/
theorem not_mem_of_withoutTags {s t : Text} (h : withoutTags s = .ok t) (hs : '&' ∉ s) :
    '&' ∉ t := by
  obtain ⟨u, hu, rfl⟩ := exists_of_withoutTags h
  intro hmem
  have hline : '&' ∈ u := by simpa using mem_replaceAll (mem_removeAll hmem)
  rcases mem_of_replaceAllM hu hline with hblocks | ⟨w, name, hname, hmem⟩
  · exact hs (mem_removeAll (mem_removeAll (mem_removeFirst (mem_removeFirst hblocks))))
  · exact not_mem_emoteText hname (by decide +kernel) hmem

theorem unescape_eq_self {s : Text} (h : '&' ∉ s) : unescape s = s := by
  have hall : ∀ es : List (Text × Char), (∀ e ∈ es, IsEntity e.1) →
      es.foldl (fun s e => replaceAll (literal e.1) (fun _ => [e.2]) s) s = s := by
    intro es
    induction es with
    | nil => intro _; rfl
    | cons e es ih =>
      intro hes
      have hpieces : pieces (literal e.1) s = s.map .plain := by
        have hinert := pieces_append_of_inert (p := literal e.1) (s := s) (fun c hc t =>
          literal_of_ne (hes e List.mem_cons_self) (fun hamp => h (hamp ▸ hc)) t) []
        simpa using hinert
      rw [List.foldl_cons, replaceAll_eq_self hpieces]
      exact ih fun e' he' => hes e' (List.mem_cons_of_mem e he')
  exact hall entities fun e he => isEntity_of_mem he

/-- Reading an entity that stands for no angle bracket makes no tag. -/
theorem TagFree.replaceAll_literal {w s : Text} (hs : TagFree s) (hw : IsEntity w) {d : Char}
    (hopening : d ≠ '<') (hclosing : d ≠ '>') :
    TagFree (replaceAll (literal w) (fun _ => [d]) s) := by
  revert hs
  refine (proper_literal hw.ne_nil).induction
    (motive := fun s => TagFree s → TagFree (replaceAll (literal w) (fun _ => [d]) s)) id ?_ ?_ s
  · intro c cs hnone ih hs
    obtain ⟨htail, hstart⟩ := tagFree_cons_iff.mp hs
    rw [replaceAll_cons_of_none hnone, tagFree_cons_iff]
    refine ⟨ih htail, ?_⟩
    rintro rfl hclose
    have hmem : '>' ∈ cs := by simpa [hclosing.symm] using mem_replaceAll hclose
    obtain ⟨e, es, rfl⟩ := List.exists_cons_of_ne_nil (List.ne_nil_of_mem hmem)
    obtain rfl : e = '>' := by simpa using hstart rfl hmem
    rw [replaceAll_cons_of_none (literal_of_ne hw (by decide) es)]
    rfl
  · intro v rest hv hsome ih hs
    rw [replaceAll_append_of_some hv hsome, List.singleton_append, tagFree_cons_iff]
    exact ⟨ih hs.of_append.2, fun h => absurd h hopening⟩

theorem pieces_literal_of_not_occursIn {w s : Text} (h : occursIn w s = false) :
    pieces (literal w) s = s.map .plain := by
  induction s with
  | nil => rfl
  | cons c cs ih =>
    rw [occursIn, Bool.or_eq_false_iff] at h
    have hnone : literal w (c :: cs) = none := by
      rw [literal, h.1]
      rfl
    rw [pieces_cons_of_none hnone, ih h.2]
    rfl

/-- **Only the entities of the angle brackets make tags.** -/
theorem TagFree.unescape {s : Text} (hs : TagFree s) (hopening : occursIn "&lt;".toList s = false)
    (hclosing : occursIn "&gt;".toList s = false) : TagFree (unescape s) := by
  have hall : ∀ es : List (Text × Char), (∀ e ∈ es, IsEntity e.1 ∧ e.2 ≠ '<' ∧ e.2 ≠ '>') →
      ∀ s, TagFree s →
        TagFree (es.foldl (fun s e => replaceAll (literal e.1) (fun _ => [e.2]) s) s) := by
    intro es
    induction es with
    | nil => intro _ s hs; exact hs
    | cons e es ih =>
      intro hes s hs
      obtain ⟨hentity, hne⟩ := hes e List.mem_cons_self
      exact ih (fun e' he' => hes e' (List.mem_cons_of_mem e he')) _
        (hs.replaceAll_literal hentity hne.1 hne.2)
  have hsplit : entities = ("&lt;".toList, '<') :: ("&gt;".toList, '>') :: entities.drop 2 := rfl
  have hothers : ∀ e ∈ entities.drop 2, e.2 ≠ '<' ∧ e.2 ≠ '>' := by decide
  rw [Markup.unescape, hsplit, List.foldl_cons, List.foldl_cons,
    replaceAll_eq_self (pieces_literal_of_not_occursIn hopening),
    replaceAll_eq_self (pieces_literal_of_not_occursIn hclosing)]
  exact hall _ (fun e he => ⟨isEntity_of_mem (List.mem_of_mem_drop he), hothers e he⟩) s hs

/-! ## Reduced texts -/

theorem exists_of_reduce {html out : Text} (h : reduce html = .ok out) :
    ∃ t, withoutTags html = .ok t ∧ trim (unescape t) = out := by
  rw [reduce] at h
  cases htags : withoutTags html with
  | error e => rw [htags] at h; cases h
  | ok t =>
    rw [htags] at h
    exact ⟨t, rfl, Except.ok.inj h⟩

theorem reduce_eq_self {s : Text} (h : TagFree s) (hamp : '&' ∉ s) : reduce s = .ok s.trim := by
  rw [reduce, withoutTags_eq_self h]
  exact congrArg (fun t => Except.ok (trim t)) (unescape_eq_self hamp)

/-- **Reduced texts are free of tags but for those that entities make.**  The text of which the
entities are read last has no tags, so all that looks like a tag in the reduced text has a bracket
from an entity.  Where the markup has no ampersand, the reduced text has no tags at all, and reducing
it again does nothing. -/
theorem reduce_tagFree {html out : Text} (h : reduce html = .ok out) :
    (∃ t, withoutTags html = .ok t ∧ out = trim (unescape t) ∧ TagFree t ∧
      (occursIn "&lt;".toList t = false → occursIn "&gt;".toList t = false → TagFree out)) ∧
    ('&' ∉ html → TagFree out ∧ reduce out = .ok out) := by
  obtain ⟨t, htags, rfl⟩ := exists_of_reduce h
  have hfree : TagFree t := tagFree_of_withoutTags htags
  constructor
  · refine ⟨t, htags, rfl, hfree, fun hopening hclosing => ?_⟩
    exact (hfree.unescape hopening hclosing).trim
  · intro hamp
    have hnone : '&' ∉ t := not_mem_of_withoutTags htags hamp
    rw [unescape_eq_self hnone]
    have hend : '&' ∉ t.trim := fun hmem => hnone (mem_of_mem_trim hmem)
    refine ⟨hfree.trim, ?_⟩
    rw [reduce_eq_self hfree.trim hend, trim_trim]

/-- Tags inside of tags and of a mark that is dropped before them, an image that is put together when
the mark is gone, and brackets that are left. -/
def nested : Text := "<b<br>> <im<kbd>g alt=\":a:\"> 1<>2 <<i>3<b <p>4> 5>".toList

theorem reduce_tagFree_nested :
    (reduce nested).toOption = some ":a: 1<>2 3 5>".toList ∧
      reduce ":a: 1<>2 3 5>".toList = .ok ":a: 1<>2 3 5>".toList := by
  have hvalue : (reduce nested).toOption = some ":a: 1<>2 3 5>".toList := by decide +kernel
  refine ⟨hvalue, ?_⟩
  cases hreduce : reduce nested with
  | error e =>
    rw [hreduce] at hvalue
    cases hvalue
  | ok out =>
    rw [hreduce] at hvalue
    rw [← Option.some.inj hvalue]
    exact ((reduce_tagFree hreduce).2 (by decide)).2

end Switchboard.Markup
