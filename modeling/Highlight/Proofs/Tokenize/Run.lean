import Highlight.Proofs.Tokenize.Progress

/-!
# Tokens of a source

Tokenizing never fails, whatever the rules of a grammar are and whatever they look like, and its
tokens cut the source up from left to right (`tokenize_cuts_in_order`): each is a piece of it that
some rule found in a window it was given, no two overlap, and no window that is searched on the way
leaves the source or divides a character.
-/

namespace Highlight

open Tokenize

namespace Tokenize

variable {code : Text}

/-- A find of one of some rules is a find of it when more rules follow. -/
theorem FoundBy.append {rules : List Rule} {number : Nat} {token : Token}
    (h : FoundBy code rules number token) (later : List Rule) :
    FoundBy code (rules ++ later) number token := by
  obtain ⟨rule, window, find, ⟨here, progress, gap, run, mem, asks⟩, found⟩ := h
  have inside : number < rules.length := (List.getElem?_eq_some_iff.mp here).1
  refine ⟨rule, window, find, ⟨?_, progress, gap, ?_, mem, asks⟩, found⟩
  · rw [List.getElem?_append_left inside, here]
  · simp only [List.take_append_of_le_length (Nat.le_of_lt inside), run]

/-- **A whole run** succeeds and is sound, and each of its tokens is a find of some rule. -/
theorem exists_run (code : Text) (rules : List Rule) :
    ∃ final, applyRules code code.byteSize .start rules = .ok final ∧ final.Sound code ∧
      ∀ token ∈ final.tokens, ∃ number, FoundBy code rules number token := by
  let P (applied : List Rule) (progress : Progress) : Prop :=
    applyRules code code.byteSize .start applied = .ok progress ∧ progress.Sound code ∧
      ∀ token ∈ progress.tokens, ∃ number, FoundBy code applied number token
  have start : P [] .start :=
    ⟨rfl, Progress.start_sound code, fun _ none => absurd none List.not_mem_nil⟩
  have step : ∀ applied progress rule, P applied progress →
      ∃ next, applyRule code code.byteSize progress rule = .ok next ∧
        P (applied ++ [rule]) next := by
    rintro applied progress rule ⟨run, sound, origin⟩
    obtain ⟨next, applies, nextSound, found, tokens, _, spec⟩ := exists_applyRule rule sound
    refine ⟨next, applies, ?_, nextSound, ?_⟩
    · simp only [applyRules_append run, applyRules, applies]
      rfl
    · intro token mem
      rw [tokens] at mem
      rcases List.mem_append.mp mem with old | new
      · obtain ⟨number, h⟩ := origin token old
        exact ⟨number, h.append [rule]⟩
      · obtain ⟨kind, gap, hgap, find, ⟨window, asks, answer⟩, span⟩ := spec token new
        refine ⟨applied.length, rule, window, find, ⟨?_, progress, gap, ?_, hgap, asks⟩, answer,
          span, kind⟩
        · rw [List.getElem?_append_right (Nat.le_refl _), Nat.sub_self]
          rfl
        · simp only [List.take_left, run]
  obtain ⟨final, run, h⟩ := exists_applyRules step rules [] start
  exact ⟨final, run, h.2⟩

end Tokenize

namespace Grammar

variable {grammar : Grammar} {code : Text}

/-- The outcome of tokenizing is that of the run. Empty source, for which no run is made, has
nothing to be cut out. -/
theorem tokenize?_of_run {final : Progress}
    (run : applyRules code code.byteSize .start grammar.rules = .ok final)
    (sound : final.Sound code) : grammar.tokenize? code = .ok (.ofTokens code final.tokens) := by
  unfold tokenize?
  split
  · next empty =>
    obtain rfl := List.isEmpty_iff.mp empty
    have none : final.tokens = [] := by
      refine List.eq_nil_iff_forall_not_mem.mpr ?_
      intro token mem
      have cut := sound.cut token mem
      have pos := cut.start_lt_stop
      have le : token.span.stop ≤ 0 := cut.within.le_high
      omega
    rw [none]
  · simp only [run]
    rfl

theorem tokenize_of_run {final : Progress}
    (run : applyRules code code.byteSize .start grammar.rules = .ok final)
    (sound : final.Sound code) : grammar.tokenize code = .ofTokens code final.tokens := by
  simp only [tokenize, tokenize?_of_run run sound]

/-- Tokenizing keeps the source. -/
@[simp] theorem tokenize_source (grammar : Grammar) (code : Text) :
    (grammar.tokenize code).source = code := by
  obtain ⟨final, run, sound, _⟩ := exists_run code grammar.rules
  rw [tokenize_of_run run sound]
  rfl

/-- Every token is a piece of the source. -/
theorem tokenize_cut {token : Token} (mem : token ∈ (grammar.tokenize code).tokens) :
    token.CutFrom code := by
  obtain ⟨final, run, sound, _⟩ := exists_run code grammar.rules
  rw [tokenize_of_run run sound] at mem
  exact sound.cut token ((sortBy_perm _ _).mem_iff.mp mem)

/-- The tokens of sound progress, by position, stand one behind the other. -/
theorem ofTokens_precedes {progress : Progress} (sound : progress.Sound code) :
    (Tokenized.ofTokens code progress.tokens).tokens.Pairwise
      fun a b => a.span.Precedes b.span := by
  have perm : (sortBy Token.isBefore progress.tokens).Perm progress.tokens := sortBy_perm _ _
  refine precedes_of_sorted Token.span ?_ ?_ ?_
  · exact (sortBy_pairwise Token.isBefore_order _).imp Token.start_le_of_isBefore
  · intro token mem
    exact (sound.cut token (perm.mem_iff.mp mem)).start_lt_stop
  · exact (perm.pairwise_iff fun h => h.symm).mpr sound.tokens_apart

/-- Every token begins behind those before it. -/
theorem tokenize_precedes (grammar : Grammar) (code : Text) :
    (grammar.tokenize code).tokens.Pairwise fun a b => a.span.Precedes b.span := by
  obtain ⟨final, run, sound, _⟩ := exists_run code grammar.rules
  rw [tokenize_of_run run sound]
  exact ofTokens_precedes sound

/-- **Tokens cut the source up from left to right**, for every grammar and every source. Tokenizing
succeeds; its tokens are pieces of the source, none empty, each beginning behind the one before, and
each is what some rule found in a window it was given; and whatever window is searched has two
boundaries of the source in order for its ends. -/
theorem tokenize_cuts_in_order (grammar : Grammar) (code : Text) :
    grammar.tokenize? code = .ok (grammar.tokenize code) ∧
      (grammar.tokenize code).source = code ∧
      (∀ token ∈ (grammar.tokenize code).tokens,
        token.text ≠ [] ∧ code.slice? token.start token.stop = some token.text ∧
          ∃ number, FoundBy code grammar.rules number token) ∧
      (grammar.tokenize code).tokens.Pairwise
        (fun a b => a.start < b.start ∧ a.stop ≤ b.start) ∧
      ∀ number rule window, Searched code grammar.rules number rule window →
        window.start ≤ window.stop ∧ window.stop ≤ code.byteSize ∧
          code.IsBoundary window.start ∧ code.IsBoundary window.stop := by
  obtain ⟨final, run, sound, origin⟩ := exists_run code grammar.rules
  have tokens := tokenize_of_run run sound
  refine ⟨?_, tokenize_source grammar code, ?_, ?_, ?_⟩
  · rw [tokens, tokenize?_of_run run sound]
  · intro token mem
    have cut := tokenize_cut mem
    rw [tokens] at mem
    exact ⟨cut.nonempty, cut.slice, origin token ((sortBy_perm _ _).mem_iff.mp mem)⟩
  · refine (tokenize_precedes grammar code).imp_of_mem ?_
    intro a b ha _ before
    exact ⟨Nat.lt_of_lt_of_le (tokenize_cut ha).start_lt_stop before, before⟩
  · intro number rule window
    rintro ⟨_, progress, gap, applied, mem, asks⟩
    obtain ⟨progress', applied', sound', _⟩ := exists_run code (grammar.rules.take number)
    obtain rfl := Except.ok.inj (applied.symm.trans applied')
    have within := asks.within (sound'.gaps_spec.2 gap mem).1
    exact ⟨within.ordered, within.le_high, within.start_boundary, within.stop_boundary⟩

end Grammar

end Highlight
