import Highlight.Proofs.Markup.Outline
import Highlight.Proofs.Placed
import Highlight.Proofs.Terminal.Display

/-!
# Renderings agree

A page and a terminal show the same tokens. Markup leaves empty tokens out before it looks for
places, a preview does not; that makes no difference to the others (`Tokenized.placed_withoutEmpty`),
so what is painted and has a text is what is in a span, in the same order. Each rendering reads back
as the source, and neither depends on the order in which the tokens came.
-/

namespace Highlight

open Tokenized

/-- The outermost spans of rendered segments are their tokens, in order. -/
theorem Markup.map_regionsOf (classPrefix before : Text) (segments : List Segment) :
    (regionsOf classPrefix before segments).1.map
        (fun region => (region.spanClass, unescape region.content)) =
      (segments.filterMap Segment.token?).map
        fun token => (classPrefix ++ token.kind.name, token.text) := by
  induction segments generalizing before with
  | nil => rfl
  | cons s rest ih =>
    cases s with
    | between text => exact ih _
    | placed token =>
      have here : unescape (escape token.text) = token.text := unescape_escape token.text
      simp only [regionsOf, List.map_cons, here, ih]
      rfl

/-- What a page shows: each outermost span is a token that has a text and a place. -/
theorem Markup.exists_outline_render {classPrefix : Text}
    (named : Config.isClassPrefix classPrefix = true) (tokenized : Tokenized) :
    ∃ regions after, outline (render classPrefix tokenized) = some (regions, after) ∧
      regions.map (fun region => (region.spanClass, unescape region.content)) =
        tokenized.withoutEmpty.placed.map
          fun token => (classPrefix ++ token.kind.name, token.text) :=
  ⟨_, _, outline_render named tokenized, map_regionsOf classPrefix [] _⟩

/-- A placed token is painted where it stands, and reset behind. -/
theorem Terminal.preview_eq_append {tokenized : Tokenized} {token : Token}
    {front back : List Segment} (split : tokenized.segments = front ++ .placed token :: back) :
    preview tokenized = front.flatMap segment ++
      (enter token.kind.style ++ token.text ++ reset) ++ back.flatMap segment := by
  rw [preview, split, List.flatMap_append, List.flatMap_cons, segment_placed]
  simp only [List.append_assoc]

/-- **Markup and previews agree** for every source and every list of tokens, whether these fit or
not. The tokens in the spans of the markup are those that are painted in the preview and have a
text, in the same order, each with the class of its category and its text. Tokens that differ in
position or index may come in any order. Every painted token is reset before anything else is
written. And where no control sequence begins in the source, a terminal shows the source with every
painted token in the renditions of its style, all else and all that follows in none; without the
selections of renditions, the preview is the source. -/
theorem renderings_agree (source : Text) (tokens : List Token) :
    ((ofTokens source tokens).withoutEmpty.placed =
        (ofTokens source tokens).placed.filter Token.isVisible ∧
      ∀ classPrefix, Config.isClassPrefix classPrefix = true → ∃ regions after,
        Markup.outline (Markup.render classPrefix (ofTokens source tokens)) =
          some (regions, after) ∧
        regions.map (fun region => (region.spanClass, Markup.unescape region.content)) =
          ((ofTokens source tokens).placed.filter Token.isVisible).map
            fun token => (classPrefix ++ token.kind.name, token.text)) ∧
    (∀ other, other.Perm tokens → (tokens.map fun token => (token.start, token.index)).Nodup →
      Terminal.preview (ofTokens source other) = Terminal.preview (ofTokens source tokens) ∧
        ∀ classPrefix, Markup.render classPrefix (ofTokens source other) =
          Markup.render classPrefix (ofTokens source tokens)) ∧
    (∀ front token back, (ofTokens source tokens).segments = front ++ .placed token :: back →
      Terminal.preview (ofTokens source tokens) = front.flatMap Terminal.segment ++
        (Terminal.enter token.kind.style ++ token.text ++ Terminal.reset) ++
          back.flatMap Terminal.segment) ∧
    (Terminal.esc ∉ source →
      (∀ rest, Terminal.shown (Terminal.preview (ofTokens source tokens) ++ rest) =
        (ofTokens source tokens).segments.flatMap Terminal.shownSegment ++ Terminal.shown rest) ∧
      Terminal.withoutSelections (Terminal.preview (ofTokens source tokens)) = source) := by
  have same := placed_withoutEmpty source tokens
  refine ⟨⟨same, ?_⟩, ?_, fun _ _ _ split => Terminal.preview_eq_append split, ?_⟩
  · intro classPrefix named
    rw [← same]
    exact Markup.exists_outline_render named _
  · intro other perm distinct
    rw [ofTokens_perm source perm distinct]
    exact ⟨rfl, fun _ => rfl⟩
  · intro plain
    exact ⟨Terminal.shown_preview plain, Terminal.withoutSelections_preview plain⟩

/-- Of tokens that are empty, overlap or divide a character, a page and a terminal show the same,
in whatever order they come. -/
theorem renderings_agree_overlapping :
    Config.isClassPrefix "fmc-" = true ∧ Terminal.esc ∉ ("é<ab" : Text) ∧
      Terminal.withoutSelections (Terminal.preview (ofTokens "é<ab"
        [⟨"ab", 3, .string, 4⟩, ⟨"<a", 2, .keyword, 1⟩, ⟨[], 2, .flag, 0⟩, ⟨"<", 1, .type, 2⟩])) =
        "é<ab" ∧
      Terminal.preview (ofTokens "é<ab"
        [⟨"<", 1, .type, 2⟩, ⟨[], 2, .flag, 0⟩, ⟨"<a", 2, .keyword, 1⟩, ⟨"ab", 3, .string, 4⟩]) =
      Terminal.preview (ofTokens "é<ab"
        [⟨"ab", 3, .string, 4⟩, ⟨"<a", 2, .keyword, 1⟩, ⟨[], 2, .flag, 0⟩, ⟨"<", 1, .type, 2⟩]) ∧
      ∃ regions after, Markup.outline (Markup.render "fmc-" (ofTokens "é<ab"
        [⟨"ab", 3, .string, 4⟩, ⟨"<a", 2, .keyword, 1⟩, ⟨[], 2, .flag, 0⟩, ⟨"<", 1, .type, 2⟩])) =
          some (regions, after) ∧
        regions.map (fun region => (region.spanClass, Markup.unescape region.content)) =
          [("fmc-keyword".toList, "<a".toList)] := by
  have named : Config.isClassPrefix "fmc-" = true := by decide
  have plain : Terminal.esc ∉ ("é<ab" : Text) := by decide
  obtain ⟨⟨-, spans⟩, ordered, -, shows⟩ := renderings_agree "é<ab"
    [⟨"ab", 3, .string, 4⟩, ⟨"<a", 2, .keyword, 1⟩, ⟨[], 2, .flag, 0⟩, ⟨"<", 1, .type, 2⟩]
  obtain ⟨regions, after, outlined, content⟩ := spans "fmc-" named
  exact ⟨named, plain, (shows plain).2, (ordered _ (List.reverse_perm _) (by decide)).1, regions,
    after, outlined, content.trans (by decide)⟩

end Highlight
