import Mathlib.Data.List.Nodup
import Highlight.Proofs.Segment

/-!
# Tokens that have a place, empty ones included

An empty token that has a place moves the cursor and nothing else. In the order of positions no
token after it begins before it, so leaving it out changes the place of no other
(`placed_withoutEmpty`). The argument is that a cursor may stand anywhere between the last token
and the next (`placedFrom_behind`).

Tokens come in any order; it shows only where two have the same position and the same index
(`ofTokens_perm`).
-/

namespace Highlight

namespace Text

/-- A text is cut behind its first part where the second part is. -/
theorem cutAt?_append_add (front back : Text) (offset : Nat) :
    cutAt? (front ++ back) (front.byteSize + offset) =
      (cutAt? back offset).map fun (middle, rest) => (front ++ middle, rest) := by
  induction front with
  | nil => simp [byteSize]
  | cons c front ih =>
    have pos : 0 < c.utf8Size := c.utf8Size_pos
    obtain ⟨n, size⟩ : ∃ n, byteSize (c :: front) + offset = n + 1 :=
      ⟨c.utf8Size + byteSize front + offset - 1, by simp only [byteSize]; omega⟩
    have behind : n + 1 - c.utf8Size = byteSize front + offset := by
      rw [← size, byteSize]
      omega
    have fits : c.utf8Size ≤ n + 1 := by
      rw [← size, byteSize]
      omega
    rw [size, List.cons_append, cutAt?, if_pos fits, behind, ih, Option.map_map]
    rfl

end Text

namespace Token

/-- Whether a token has a text. -/
def isVisible (token : Token) : Bool := !token.text.isEmpty

variable {token : Token} {cursor : Nat} {rest between after : Text}

/-- A token with a place starts behind what lies between. -/
theorem start_eq_of_place? (h : token.place? cursor rest = some (between, after)) :
    token.start = cursor + between.byteSize := by
  unfold place? at h
  split at h
  · next behind =>
    obtain ⟨⟨front, here⟩, hcut, h⟩ := Option.bind_eq_some_iff.mp h
    obtain ⟨back, -, h⟩ := Option.bind_eq_some_iff.mp h
    obtain ⟨rfl, rfl⟩ := Prod.mk.inj (Option.some.inj h)
    have size := (Text.eq_append_of_cutAt?_eq_some hcut).2
    omega
  · cases h

/-- A token that starts behind some text has the place that it has with the cursor there. -/
theorem place?_behind (front : Text) (behind : cursor + front.byteSize ≤ token.start) :
    token.place? cursor (front ++ rest) =
      (token.place? (cursor + front.byteSize) rest).map
        fun (between, after) => (front ++ between, after) := by
  have offset : token.start - cursor =
      front.byteSize + (token.start - (cursor + front.byteSize)) := by omega
  have order : cursor ≤ token.start := by omega
  rw [place?, place?, if_pos order, if_pos behind, offset, Text.cutAt?_append_add]
  cases Text.cutAt? rest (token.start - (cursor + front.byteSize)) with
  | none => rfl
  | some parts =>
    obtain ⟨middle, here⟩ := parts
    show ((token.text.isPrefixOf? here).bind fun after => some (front ++ middle, after)) =
      ((token.text.isPrefixOf? here).bind fun after => some (middle, after)).map _
    cases token.text.isPrefixOf? here <;> rfl

end Token

namespace Tokenized

variable {cursor : Nat} {rest : Text} {tokens : List Token}

/-- The tokens that have a place behind a cursor. -/
def placedFrom (cursor : Nat) (rest : Text) (tokens : List Token) : List Token :=
  (segmentsFrom cursor rest tokens).filterMap Segment.token?

/-- The tokens that have a place. -/
def placed (tokenized : Tokenized) : List Token := tokenized.segments.filterMap Segment.token?

theorem placedFrom_cons_of_some {token : Token} {between after : Text}
    (h : token.place? cursor rest = some (between, after)) :
    placedFrom cursor rest (token :: tokens) = token :: placedFrom token.stop after tokens := by
  rw [placedFrom, segmentsFrom, h]
  rfl

theorem placedFrom_cons_of_none {token : Token} (h : token.place? cursor rest = none) :
    placedFrom cursor rest (token :: tokens) = placedFrom cursor rest tokens := by
  rw [placedFrom, segmentsFrom, h]
  rfl

/-- **The cursor may as well stand further on**, as long as no token starts before it. -/
theorem placedFrom_behind (front : Text)
    (behind : ∀ token ∈ tokens, cursor + front.byteSize ≤ token.start) :
    placedFrom cursor (front ++ rest) tokens =
      placedFrom (cursor + front.byteSize) rest tokens := by
  induction tokens with
  | nil => rfl
  | cons token tokens ih =>
    have here : token.place? cursor (front ++ rest) = _ :=
      Token.place?_behind front (behind token List.mem_cons_self)
    cases place : token.place? (cursor + front.byteSize) rest with
    | none =>
      rw [place] at here
      rw [placedFrom_cons_of_none here, placedFrom_cons_of_none place]
      exact ih fun other mem => behind other (List.mem_cons_of_mem _ mem)
    | some parts =>
      rw [place] at here
      rw [placedFrom_cons_of_some here, placedFrom_cons_of_some place]

/-- Without the empty tokens, the same others have a place. -/
theorem placedFrom_filter (sorted : tokens.Pairwise fun a b => a.start ≤ b.start) :
    placedFrom cursor rest (tokens.filter Token.isVisible) =
      (placedFrom cursor rest tokens).filter Token.isVisible := by
  induction tokens generalizing cursor rest with
  | nil => rfl
  | cons token tokens ih =>
    obtain ⟨first, sorted⟩ := List.pairwise_cons.mp sorted
    by_cases visible : token.isVisible = true
    · rw [List.filter_cons_of_pos visible]
      cases place : token.place? cursor rest with
      | none => rw [placedFrom_cons_of_none place, placedFrom_cons_of_none place, ih sorted]
      | some parts =>
        rw [placedFrom_cons_of_some place, placedFrom_cons_of_some place,
          List.filter_cons_of_pos visible, ih sorted]
    · rw [List.filter_cons_of_neg visible]
      cases place : token.place? cursor rest with
      | none => rw [placedFrom_cons_of_none place, ih sorted]
      | some parts =>
        -- Behind the empty token nothing was passed over but what lies before it.
        obtain ⟨between, after⟩ := parts
        have empty : token.text = [] := by simpa [Token.isVisible] using visible
        have start := Token.start_eq_of_place? place
        have stop : token.stop = cursor + between.byteSize := by
          rw [Token.stop, empty, start]
          rfl
        have whole : rest = between ++ after := by
          simpa [empty] using token.eq_append_of_place?_eq_some place
        have behind : ∀ other ∈ tokens.filter Token.isVisible,
            cursor + between.byteSize ≤ other.start := by
          intro other mem
          exact start ▸ first other (List.mem_of_mem_filter mem)
        rw [placedFrom_cons_of_some place, List.filter_cons_of_neg visible, ← ih sorted, stop,
          whole, placedFrom_behind between behind]

/-- **Leaving out the empty tokens** leaves the others where they are. -/
theorem placed_withoutEmpty (source : Text) (tokens : List Token) :
    (ofTokens source tokens).withoutEmpty.placed =
      (ofTokens source tokens).placed.filter Token.isVisible :=
  placedFrom_filter ((sortBy_pairwise Token.isBefore_order tokens).imp Token.start_le_of_isBefore)

/-- **Tokens may come in any order** if no two have the same position and the same index. -/
theorem ofTokens_perm (source : Text) {tokens other : List Token} (perm : other.Perm tokens)
    (distinct : (tokens.map fun token => (token.start, token.index)).Nodup) :
    ofTokens source other = ofTokens source tokens := by
  have apart : ∀ a ∈ tokens, ∀ b ∈ tokens, a.isBefore b = true → b.isBefore a = true → a = b := by
    intro a ha b hb ab ba
    refine List.inj_on_of_nodup_map distinct ha hb ?_
    simp only [Token.isBefore, Bool.or_eq_true, Bool.and_eq_true, decide_eq_true_eq,
      beq_iff_eq] at ab ba
    exact Prod.ext (by omega) (by omega)
  rw [ofTokens, ofTokens, sortBy_eq_of_perm Token.isBefore_order perm apart]

end Tokenized

end Highlight
