import Highlight.Proofs.Tokenize.Run
import Highlight.Segment
import Mathlib.Data.List.Basic

/-!
# Tokens that have a place

A piece of the source that begins behind the cursor has a place (`CutFrom.exists_place`). So pieces
one behind the other divide the source into exactly themselves and the slices between them: `Laid`
is that division, and the segments of such tokens are it (`laid_segments`).
-/

namespace Highlight

/-- The token of a segment, if it has one. -/
def Segment.token? : Segment → Option Token
  | .between _ => none
  | .placed token => some token

namespace Token

/-- A token that has a place divides what is left of the source at its ends. -/
theorem eq_append_of_place?_eq_some (token : Token) {cursor : Nat} {rest between after : Text}
    (h : token.place? cursor rest = some (between, after)) :
    rest = between ++ (token.text ++ after) := by
  unfold place? at h
  split at h
  · obtain ⟨⟨front, here⟩, hcut, h⟩ := Option.bind_eq_some_iff.mp h
    obtain ⟨back, hback, h⟩ := Option.bind_eq_some_iff.mp h
    simp only [Option.pure_def, Option.some.injEq, Prod.mk.injEq] at h
    obtain ⟨rfl, rfl⟩ := h
    rw [(Text.eq_append_of_cutAt?_eq_some hcut).1, List.append_right_inj]
    exact (List.isPrefixOf?_eq_some_iff_append_eq.mp hback).symm
  · simp at h

end Token

namespace Tokenized

/-- Joined together, the segments from a cursor on are the source from there on. -/
theorem flatMap_text_segmentsFrom (cursor : Nat) (rest : Text) (tokens : List Token) :
    (segmentsFrom cursor rest tokens).flatMap Segment.text = rest := by
  induction tokens generalizing cursor rest with
  | nil => simp [segmentsFrom, Segment.text]
  | cons token tokens ih =>
    rw [segmentsFrom]
    split
    · next between after place =>
      simp only [List.flatMap_cons, Segment.text, ih]
      exact (token.eq_append_of_place?_eq_some place).symm
    · exact ih cursor rest

/-- Joined together, the segments are the source. -/
@[simp] theorem flatMap_text_segments (tokenized : Tokenized) :
    tokenized.segments.flatMap Segment.text = tokenized.source :=
  flatMap_text_segmentsFrom 0 tokenized.source tokenized.tokens

end Tokenized

/-- **A piece of the source behind the cursor has a place**: it divides what is left of the source
into the slice before it, itself, and the rest. -/
theorem Token.CutFrom.exists_place {token : Token} {front rest : Text}
    (cut : token.CutFrom (front ++ rest)) (behind : front.byteSize ≤ token.start) :
    ∃ between after, token.place? front.byteSize rest = some (between, after) ∧
      rest = between ++ (token.text ++ after) ∧ (front ++ between).byteSize = token.start := by
  obtain ⟨before, after, whole, start, _⟩ := Text.slice?_eq_some_iff.mp cut.slice
  obtain ⟨between, rfl, rfl⟩ := Text.exists_middle whole (start ▸ behind)
  refine ⟨between, after, ?_, rfl, start⟩
  have size : token.start - front.byteSize = Text.byteSize between := by
    rw [← start, Text.byteSize_append, Nat.add_sub_cancel_left]
  have here : token.text.isPrefixOf? (token.text ++ after) = some after :=
    List.isPrefixOf?_eq_some_iff_append_eq.mpr rfl
  simp only [Token.place?, if_pos behind, size, Text.cutAt?_append]
  dsimp only [bind, Option.bind]
  rw [here]
  rfl

/-- Segments from a cursor on that are some tokens and the slices of a source between them. -/
inductive Laid (code : Text) : Nat → List Token → List Segment → Prop
  | last {cursor : Nat} {after : Text} : code.slice? cursor code.byteSize = some after →
      Laid code cursor [] [.between after]
  | next {cursor : Nat} {between : Text} {token : Token} {tokens : List Token}
      {segments : List Segment} : code.slice? cursor token.start = some between →
      Laid code token.stop tokens segments →
      Laid code cursor (token :: tokens) (.between between :: .placed token :: segments)

/-- No token is left out of the segments that are laid. -/
theorem Laid.filterMap_token? {code : Text} {cursor : Nat} {tokens : List Token}
    {segments : List Segment} (h : Laid code cursor tokens segments) :
    segments.filterMap Segment.token? = tokens := by
  induction h with
  | last _ => rfl
  | next _ _ ih => exact congrArg (_ :: ·) ih

namespace Tokenized

/-- Pieces of the source one behind the other are laid, from any cursor before them on. -/
theorem laid_segmentsFrom {code : Text} (front rest : Text) {tokens : List Token}
    (whole : code = front ++ rest) (cut : ∀ token ∈ tokens, token.CutFrom code)
    (ordered : tokens.Pairwise fun a b => a.span.Precedes b.span)
    (behind : ∀ token ∈ tokens, front.byteSize ≤ token.start) :
    Laid code front.byteSize tokens (segmentsFrom front.byteSize rest tokens) := by
  induction tokens generalizing front rest with
  | nil =>
    refine .last (Text.slice?_eq_some_iff.mpr ⟨front, [], ?_, rfl, ?_⟩)
    · simp only [whole, List.append_nil]
    · simp only [whole, Text.byteSize_append]
  | cons token tokens ih =>
    obtain ⟨first, ordered⟩ := List.pairwise_cons.mp ordered
    have here : token.CutFrom (front ++ rest) := whole ▸ cut token List.mem_cons_self
    obtain ⟨between, after, place, rfl, start⟩ :=
      here.exists_place (behind token List.mem_cons_self)
    have stop : ((front ++ between) ++ token.text).byteSize = token.stop := by
      simp only [Text.byteSize_append, start]
      rfl
    have slice : code.slice? front.byteSize token.start = some between := by
      refine Text.slice?_eq_some_iff.mpr ⟨front, token.text ++ after, whole, rfl, ?_⟩
      rw [← start, Text.byteSize_append]
    have later := ih ((front ++ between) ++ token.text) after (by simp [whole])
      (fun other mem => cut other (List.mem_cons_of_mem _ mem)) ordered
      fun other mem => stop ▸ first other mem
    simp only [stop] at later
    simp only [segmentsFrom, place]
    exact .next slice later

/-- Where no token is empty, none is taken out for being so. -/
theorem withoutEmpty_eq {tokenized : Tokenized}
    (nonempty : ∀ token ∈ tokenized.tokens, token.text ≠ []) :
    tokenized.withoutEmpty = tokenized := by
  have all : tokenized.tokens.filter (fun token => !token.text.isEmpty) = tokenized.tokens := by
    refine List.filter_eq_self.mpr ?_
    intro token mem
    rw [List.isEmpty_eq_false_iff.mpr (nonempty token mem)]
    rfl
  simp only [withoutEmpty, all]

end Tokenized

/-- **The segments of what a grammar gives** are its tokens and the slices between them. -/
theorem Grammar.laid_segments (grammar : Grammar) (code : Text) :
    Laid code 0 (grammar.tokenize code).tokens
      (grammar.tokenize code).withoutEmpty.segments := by
  simp only [Tokenized.withoutEmpty_eq fun _ mem => (tokenize_cut mem).nonempty, Tokenized.segments,
    tokenize_source]
  exact Tokenized.laid_segmentsFrom [] code rfl (fun _ mem => tokenize_cut mem)
    (tokenize_precedes grammar code) fun _ _ => Nat.zero_le _

end Highlight
