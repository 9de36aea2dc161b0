import Highlight.Proofs.Tokenize.Run

/-!
# Rules by priority

A rule only adds. The tokens of the first rules of a grammar are the tokens of the whole grammar
with the lowest numbers, untouched by the rules that follow (`tokenize_firstRules`): tokens are
numbered rule by rule, and from left to right for each rule.

The list of tokens in the order of discovery grows at its end (`exists_prefix`), and a token's
number is its place in that list (`getElem?_index`); sorting by position changes neither.
-/

namespace Highlight

open Tokenize

/-- The grammar with its first rules only. -/
def Grammar.firstRules (grammar : Grammar) (count : Nat) : Grammar :=
  { grammar with rules := grammar.rules.take count }

/-- Whether a token is there because of the rule with a number: the rules up to it give the token,
and those before it do not. -/
def Grammar.Introduces (grammar : Grammar) (code : Text) (number : Nat) (token : Token) : Prop :=
  token ∈ ((grammar.firstRules (number + 1)).tokenize code).tokens ∧
    token ∉ ((grammar.firstRules number).tokenize code).tokens

namespace Tokenize

variable {code : Text} {tokens before found : List Token} {a b : Token}

/-- Where tokens are numbered from the first one on, a number is a place. -/
theorem index_of_getElem? (numbered : tokens.map Token.index = List.range tokens.length)
    {place : Nat} (h : tokens[place]? = some a) : a.index = place := by
  have inside : place < tokens.length := (List.getElem?_eq_some_iff.mp h).1
  have same : (tokens.map Token.index)[place]? = (List.range tokens.length)[place]? := by
    rw [numbered]
  rw [List.getElem?_map, h, List.getElem?_range inside] at same
  exact Option.some.inj same

/-- Where tokens are numbered from the first one on, each stands in the place of its number. -/
theorem getElem?_index (numbered : tokens.map Token.index = List.range tokens.length)
    (mem : a ∈ tokens) : tokens[a.index]? = some a := by
  obtain ⟨place, inside, here⟩ := List.getElem_of_mem mem
  have h : tokens[place]? = some a := List.getElem?_eq_some_iff.mpr ⟨inside, here⟩
  rw [index_of_getElem? numbered h, h]

/-- The tokens that were found first have the lowest numbers. -/
theorem index_lt_of_mem_before
    (numbered : (before ++ found).map Token.index = List.range (before ++ found).length)
    (mem : a ∈ before) : a.index < before.length := by
  obtain ⟨place, inside, here⟩ := List.getElem_of_mem mem
  have h : (before ++ found)[place]? = some a := by
    rw [List.getElem?_append_left inside]
    exact List.getElem?_eq_some_iff.mpr ⟨inside, here⟩
  rw [index_of_getElem? numbered h]
  exact inside

/-- The tokens that were found last have the highest numbers. -/
theorem le_index_of_mem_found
    (numbered : (before ++ found).map Token.index = List.range (before ++ found).length)
    (mem : a ∈ found) : before.length ≤ a.index := by
  obtain ⟨place, inside, here⟩ := List.getElem_of_mem mem
  have h : (before ++ found)[before.length + place]? = some a := by
    rw [List.getElem?_append_right (Nat.le_add_right _ _), Nat.add_sub_cancel_left]
    exact List.getElem?_eq_some_iff.mpr ⟨inside, here⟩
  rw [index_of_getElem? numbered h]
  omega

/-- The tokens that were found last are numbered on, in the order they were found in. -/
theorem found_index_pairwise
    (numbered : (before ++ found).map Token.index = List.range (before ++ found).length) :
    found.Pairwise fun a b => a.index < b.index := by
  have increasing : ((before ++ found).map Token.index).Pairwise (· < ·) :=
    numbered ▸ List.pairwise_lt_range
  exact (List.pairwise_append.mp (List.pairwise_map.mp increasing)).2.1

/-- **Rules only add**: what was found before stays where it is in the list of what is found. -/
theorem exists_prefix {progress : Progress} (sound : progress.Sound code) (rules : List Rule) :
    ∃ final, applyRules code code.byteSize progress rules = .ok final ∧ final.Sound code ∧
      ∃ more, final.tokens = progress.tokens ++ more := by
  let P (_ : List Rule) (later : Progress) : Prop :=
    later.Sound code ∧ ∃ more, later.tokens = progress.tokens ++ more
  have step : ∀ applied later rule, P applied later →
      ∃ next, applyRule code code.byteSize later rule = .ok next ∧ P (applied ++ [rule]) next := by
    rintro _ later rule ⟨sound, more, tokens⟩
    obtain ⟨next, applies, nextSound, found, nextTokens, _⟩ := exists_applyRule rule sound
    refine ⟨next, applies, nextSound, more ++ found, ?_⟩
    rw [nextTokens, tokens, List.append_assoc]
  have start : P [] progress := ⟨sound, [], (List.append_nil progress.tokens).symm⟩
  exact exists_applyRules step rules [] start

end Tokenize

namespace Grammar

variable {grammar : Grammar} {code : Text} {number : Nat} {token : Token}

/-- Tokens by position are the tokens of the run, in another order. -/
theorem mem_tokenize {final : Progress}
    (run : applyRules code code.byteSize .start grammar.rules = .ok final)
    (sound : final.Sound code) : token ∈ (grammar.tokenize code).tokens ↔ token ∈ final.tokens := by
  rw [tokenize_of_run run sound]
  exact (sortBy_perm _ _).mem_iff

theorem length_tokenize {final : Progress}
    (run : applyRules code code.byteSize .start grammar.rules = .ok final)
    (sound : final.Sound code) :
    (grammar.tokenize code).tokens.length = final.tokens.length := by
  rw [tokenize_of_run run sound]
  exact (sortBy_perm _ _).length_eq

/-- The first rules of a grammar give the first tokens of a longer run. -/
theorem exists_firstRules (grammar : Grammar) (code : Text) {count more : Nat}
    (le : count ≤ more) :
    ∃ first final rest,
      applyRules code code.byteSize .start (grammar.firstRules count).rules = .ok first ∧
      applyRules code code.byteSize .start (grammar.firstRules more).rules = .ok final ∧
      first.Sound code ∧ final.Sound code ∧ final.tokens = first.tokens ++ rest := by
  obtain ⟨first, runFirst, soundFirst, _⟩ := exists_run code (grammar.firstRules count).rules
  have split : (grammar.firstRules more).rules =
      (grammar.firstRules count).rules ++ ((grammar.rules.take more).drop count) := by
    have first : grammar.rules.take count = (grammar.rules.take more).take count := by
      rw [List.take_take, Nat.min_eq_left le]
    exact ((congrArg (· ++ _) first).trans (List.take_append_drop count _)).symm
  obtain ⟨final, runRest, soundFinal, rest, tokens⟩ :=
    exists_prefix soundFirst ((grammar.rules.take more).drop count)
  refine ⟨first, final, rest, runFirst, ?_, soundFirst, soundFinal, tokens⟩
  rw [split, applyRules_append runFirst, runRest]

/-- More rules than there are change nothing. -/
theorem firstRules_of_length_le {count : Nat} (le : grammar.rules.length ≤ count) :
    grammar.firstRules count = grammar := by
  simp only [firstRules, List.take_of_length_le le]

/-- One more rule is one more step of the run. -/
theorem run_firstRules_succ {rule : Rule} {first next : Progress}
    (here : grammar.rules[number]? = some rule)
    (run : applyRules code code.byteSize .start (grammar.firstRules number).rules = .ok first)
    (applies : applyRule code code.byteSize first rule = .ok next) :
    applyRules code code.byteSize .start (grammar.firstRules (number + 1)).rules = .ok next := by
  have split : (grammar.firstRules (number + 1)).rules =
      (grammar.firstRules number).rules ++ [rule] := by
    simp only [firstRules, List.take_add_one, here]
    rfl
  simp only [split, applyRules_append run, applyRules, applies]
  rfl

/-- **What a rule introduces** is what it adds to the run of the rules before it: an answer to a
window between the spans that they have claimed. -/
theorem Introduces.exists_found (h : grammar.Introduces code number token) :
    ∃ rule first next found, grammar.rules[number]? = some rule ∧
      applyRules code code.byteSize .start (grammar.firstRules number).rules = .ok first ∧
      applyRules code code.byteSize .start (grammar.firstRules (number + 1)).rules = .ok next ∧
      first.Sound code ∧ next.Sound code ∧ next.tokens = first.tokens ++ found ∧
      found.Pairwise (fun a b => a.span.Precedes b.span) ∧ token ∈ found ∧
      token.kind = rule.kind ∧ ∃ gap ∈ Tokenize.gaps code.byteSize 0 first.claimed, ∃ find,
        rule.Answers code gap find ∧ token.span = find.span := by
  obtain ⟨there, absent⟩ := h
  obtain ⟨first, runFirst, soundFirst, _⟩ := exists_run code (grammar.firstRules number).rules
  rw [mem_tokenize runFirst soundFirst] at absent
  cases here : grammar.rules[number]? with
  | none =>
    have le : grammar.rules.length ≤ number := List.getElem?_eq_none_iff.mp here
    rw [firstRules_of_length_le le] at runFirst
    rw [firstRules_of_length_le (Nat.le_succ_of_le le), mem_tokenize runFirst soundFirst] at there
    exact absurd there absent
  | some rule =>
    obtain ⟨next, applies, soundNext, found, tokens, ordered, spec⟩ :=
      exists_applyRule rule soundFirst
    have runNext := run_firstRules_succ here runFirst applies
    rw [mem_tokenize runNext soundNext, tokens] at there
    have new : token ∈ found := (List.mem_append.mp there).resolve_left absent
    exact ⟨rule, first, next, found, rfl, runFirst, runNext, soundFirst, soundNext, tokens,
      ordered, new, spec token new⟩

/-- A token that a rule introduces has a number that the rules before did not reach, and that no
later rule gives. -/
theorem Introduces.index_bounds (h : grammar.Introduces code number token) :
    ((grammar.firstRules number).tokenize code).tokens.length ≤ token.index ∧
      token.index < ((grammar.firstRules (number + 1)).tokenize code).tokens.length := by
  obtain
    ⟨rule, first, next, found, _, runFirst, runNext, soundFirst, soundNext, tokens, _, new, _⟩ :=
    h.exists_found
  rw [length_tokenize runFirst soundFirst, length_tokenize runNext soundNext]
  have numbered := soundNext.numbered
  constructor
  · rw [tokens] at numbered
    exact le_index_of_mem_found numbered new
  · have mem : token ∈ next.tokens := tokens ▸ List.mem_append_right _ new
    exact (List.getElem?_eq_some_iff.mp (getElem?_index numbered mem)).1

/-- More rules give no fewer tokens. -/
theorem length_tokenize_firstRules_mono (grammar : Grammar) (code : Text) {count more : Nat}
    (le : count ≤ more) : ((grammar.firstRules count).tokenize code).tokens.length ≤
      ((grammar.firstRules more).tokenize code).tokens.length := by
  obtain ⟨first, final, rest, runFirst, runFinal, soundFirst, soundFinal, tokens⟩ :=
    grammar.exists_firstRules code le
  rw [length_tokenize runFirst soundFirst, length_tokenize runFinal soundFinal, tokens,
    List.length_append]
  omega

/-- Among the tokens that one rule introduces, numbers go up from left to right. -/
theorem Introduces.index_lt_iff_start_lt {a b : Token} (ha : grammar.Introduces code number a)
    (hb : grammar.Introduces code number b) : a.index < b.index ↔ a.start < b.start := by
  obtain ⟨_, first, next, found, _, runFirst, runNext, _, soundNext, tokens, ordered, newA, _⟩ :=
    ha.exists_found
  have newB : b ∈ found := by
    obtain ⟨there, absent⟩ := hb
    obtain ⟨first', runFirst', soundFirst', _⟩ := exists_run code (grammar.firstRules number).rules
    obtain rfl := Except.ok.inj (runFirst.symm.trans runFirst')
    rw [mem_tokenize runFirst soundFirst'] at absent
    rw [mem_tokenize runNext soundNext, tokens] at there
    exact (List.mem_append.mp there).resolve_left absent
  have rising : found.Pairwise fun a b => a.index < b.index ∧ a.start < b.start := by
    have numbers := found_index_pairwise (tokens ▸ soundNext.numbered)
    refine (numbers.and ordered).imp_of_mem fun {a b} ha _ both => ⟨both.1, ?_⟩
    have cut := soundNext.cut a (tokens ▸ List.mem_append_right _ ha)
    exact Nat.lt_of_lt_of_le cut.start_lt_stop both.2
  refine List.Pairwise.forall_of_forall_of_flip (R := fun a b : Token =>
    a.index < b.index ↔ a.start < b.start) ?_ ?_ ?_ newA newB
  · intro x _
    exact iff_of_false (Nat.lt_irrefl _) (Nat.lt_irrefl _)
  · exact rising.imp fun both => iff_of_true both.1 both.2
  · exact rising.imp fun both => iff_of_false (Nat.lt_asymm both.1) (Nat.lt_asymm both.2)

/-- The tokens of the first rules are those of all rules with the lowest numbers. -/
theorem tokens_firstRules (grammar : Grammar) (code : Text) (count : Nat) :
    ((grammar.firstRules count).tokenize code).tokens =
      (grammar.tokenize code).tokens.filter fun token =>
        token.index < ((grammar.firstRules count).tokenize code).tokens.length := by
  obtain ⟨first, final, rest, runFirst, runFinal, soundFirst, soundFinal, tokens⟩ :=
    grammar.exists_firstRules code (Nat.le_max_left count grammar.rules.length)
  rw [firstRules_of_length_le (Nat.le_max_right _ _)] at runFinal
  have numbered := soundFinal.numbered
  rw [length_tokenize runFirst soundFirst, tokenize_of_run runFirst soundFirst,
    tokenize_of_run runFinal soundFinal]
  have distinct : ∀ a ∈ final.tokens, ∀ b ∈ final.tokens, a.isBefore b = true →
      b.isBefore a = true → a = b := by
    intro a ha b hb before behind
    have same : a.index = b.index := by
      simp only [Token.isBefore, Bool.or_eq_true, Bool.and_eq_true, decide_eq_true_eq,
        beq_iff_eq] at before behind
      omega
    have here := getElem?_index numbered ha
    simp only [same, getElem?_index numbered hb] at here
    exact (Option.some.inj here).symm
  have low : final.tokens.filter (fun token => token.index < first.tokens.length) =
      first.tokens := by
    rw [tokens] at numbered ⊢
    rw [List.filter_append, List.filter_eq_self.mpr, List.filter_eq_nil_iff.mpr, List.append_nil]
    · intro token mem
      simpa using le_index_of_mem_found numbered mem
    · intro token mem
      exact decide_eq_true (index_lt_of_mem_before numbered mem)
  exact ((sortBy_filter Token.isBefore_order distinct _).trans (congrArg _ low)).symm

/-- Numbers are given out from the first one on, without a gap. -/
theorem index_perm_range (grammar : Grammar) (code : Text) :
    ((grammar.tokenize code).tokens.map Token.index).Perm
      (List.range (grammar.tokenize code).tokens.length) := by
  obtain ⟨final, run, sound, _⟩ := exists_run code grammar.rules
  rw [length_tokenize run sound, tokenize_of_run run sound, ← sound.numbered]
  exact (sortBy_perm Token.isBefore final.tokens).map Token.index

/-- A token of the first rules is introduced by one of them. -/
theorem exists_introduces {count : Nat}
    (mem : token ∈ ((grammar.firstRules count).tokenize code).tokens) :
    ∃ number, grammar.Introduces code number token := by
  induction count with
  | zero =>
    obtain ⟨none, run, sound, _⟩ := exists_run code (grammar.firstRules 0).rules
    obtain rfl := Except.ok.inj run
    exact absurd ((mem_tokenize run sound).mp mem) List.not_mem_nil
  | succ count ih =>
    by_cases earlier : token ∈ ((grammar.firstRules count).tokenize code).tokens
    · exact ih earlier
    · exact ⟨count, mem, earlier⟩

/-- **Rule order is a stable priority.** The tokens of the first `count` rules are, in every
respect, those tokens of the whole grammar whose number is below how many they are. The numbers of
all tokens are 0, 1, 2 and so on; each token is introduced by a rule, the category of which it has;
a token that an earlier rule introduces has the lower number, and of two that one rule introduces,
the one further left has. -/
theorem tokenize_firstRules (grammar : Grammar) (code : Text) :
    (∀ count, ((grammar.firstRules count).tokenize code).tokens =
      (grammar.tokenize code).tokens.filter fun token =>
        token.index < ((grammar.firstRules count).tokenize code).tokens.length) ∧
    ((grammar.tokenize code).tokens.map Token.index).Perm
      (List.range (grammar.tokenize code).tokens.length) ∧
    (∀ token ∈ (grammar.tokenize code).tokens, ∃ number rule,
      grammar.rules[number]? = some rule ∧ token.kind = rule.kind ∧
        grammar.Introduces code number token) ∧
    ∀ first second a b, grammar.Introduces code first a → grammar.Introduces code second b →
      (first < second → a.index < b.index) ∧
        (first = second → (a.index < b.index ↔ a.start < b.start)) := by
  refine ⟨grammar.tokens_firstRules code, grammar.index_perm_range code, ?_,
    fun first second a b ha hb => ⟨?_, ?_⟩⟩
  · intro token mem
    rw [← firstRules_of_length_le (Nat.le_refl grammar.rules.length)] at mem
    obtain ⟨number, introduces⟩ := exists_introduces mem
    obtain ⟨rule, _, _, _, here, _, _, _, _, _, _, _, kind, _⟩ := introduces.exists_found
    exact ⟨number, rule, here, kind, introduces⟩
  · intro lt
    calc a.index
      _ < ((grammar.firstRules (first + 1)).tokenize code).tokens.length := ha.index_bounds.2
      _ ≤ ((grammar.firstRules second).tokenize code).tokens.length :=
        grammar.length_tokenize_firstRules_mono code lt
      _ ≤ b.index := hb.index_bounds.1
  · rintro rfl
    exact ha.index_lt_iff_start_lt hb

end Grammar

end Highlight
