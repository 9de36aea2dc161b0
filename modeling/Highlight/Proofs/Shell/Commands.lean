import Highlight.Proofs.Shell.Claimed

/-!
# Names of commands are tokens

Nothing claims a name where a command may stand but the rules before those for commands. Outside
strings and comments these are the one for first lines and the one for keywords, and the latter
claims a part of a name as well: `for-each` holds the keyword `for`. So the name of a command is one
token if and only if no first line reaches into it and no keyword stands alone in it
(`Shell.covers_iff_isFree`).
-/

namespace Highlight

open Pattern (Span State)

namespace Shell

open Grammar (shell)

variable {front name back before mark lead blanks : Text} {wrapper : String} {token : Token}
  {number : Nat} {kind : TokenType}

/-- The tokens of a name between two texts. -/
def tokensAround (front name back : Text) : List Token :=
  (shell.tokenize (front ++ (name ++ back))).tokens

/-- Whether a name lies outside strings and comments. -/
def IsOutside (front name back : Text) : Prop :=
  ∀ token ∈ tokensAround front name back, token.kind = .string ∨ token.kind = .comment →
    token.IsApart front name

/-- Whether no first line reaches into a name and no keyword stands alone in it. -/
def IsFree (front name back : Text) : Prop :=
  (∀ token ∈ tokensAround front name back, token.kind = .preprocessor →
    token.IsApart front name) ∧ ¬ HoldsKeyword name back

/-- Whether exactly one token has a part in a name, which is of a kind and has the name as its
text. -/
def Covers (kind : TokenType) (front name back : Text) : Prop :=
  ∃ token ∈ tokensAround front name back, token.kind = kind ∧ token.text = name ∧
    token.start = front.byteSize ∧
      ∀ other ∈ tokensAround front name back, other = token ∨ other.IsApart front name

/-! ## What stands in the way -/

/-- What the first three rules introduce. -/
theorem kind_of_early (early : number < 3) {code : Text}
    (introduced : shell.Introduces code number token) :
    token.kind = .preprocessor ∨ token.kind = .string ∨ token.kind = .comment := by
  match number, early with
  | 0, _ => exact .inl (introduced.kind_eq rfl)
  | 1, _ => exact .inr (.inl (introduced.kind_eq rfl))
  | 2, _ => exact .inr (.inr (introduced.kind_eq rfl))

theorem IsOutside.early_apart (outside : IsOutside front name back)
    (first : ∀ token ∈ tokensAround front name back, token.kind = .preprocessor →
      token.IsApart front name) (early : number < 3)
    (introduced : shell.Introduces (front ++ (name ++ back)) number token) :
    token.IsApart front name := by
  have mem := Grammar.mem_tokenize_iff_introduces.mpr ⟨number, introduced⟩
  rcases kind_of_early early introduced with line | quoted
  · exact first token mem line
  · exact outside token mem quoted

/-- **A token that a name is** leaves no room for a keyword in it. -/
theorem Covers.isFree (covers : Covers kind front name back) (outside : IsOutside front name back)
    (clear : front.getLast?.any Unicode.isWord = false) (other : kind ≠ .preprocessor)
    (other' : kind ≠ .keyword) : IsFree front name back := by
  obtain ⟨token, -, rfl, -, -, alone⟩ := covers
  have first : ∀ line ∈ tokensAround front name back, line.kind = .preprocessor →
      line.IsApart front name := fun line mem same =>
    (alone line mem).resolve_left fun covering => other (covering ▸ same)
  refine ⟨first, fun holds => ?_⟩
  obtain ⟨keyword, introduced, common⟩ := exists_keyword_of_holdsKeyword holds rfl clear
    fun number early token introduced => outside.early_apart first early introduced
  have mem := Grammar.mem_tokenize_iff_introduces.mpr ⟨3, introduced⟩
  rcases alone keyword mem with rfl | apart
  · exact other' (introduced.kind_eq getElem_keywordRule)
  · exact common apart

/-- A token that is introduced for a name covers it. -/
theorem covers_of_introduces {rule : Rule} (here : shell.rules[number]? = some rule)
    (found : ∃ token, shell.Introduces (front ++ (name ++ back)) number token ∧
      token.span = ⟨front.byteSize, (front ++ name).byteSize⟩) :
    Covers rule.kind front name back := by
  obtain ⟨token, introduced, span⟩ := found
  obtain ⟨start, stop⟩ := Span.mk.inj span
  have mem := Grammar.mem_tokenize_iff_introduces.mpr ⟨number, introduced⟩
  refine ⟨token, mem, introduced.kind_eq here, ?_, start, fun other given => ?_⟩
  · exact (Grammar.tokenize_cut mem).text_eq rfl start.symm stop.symm
  · rw [Token.IsApart, ← span]
    exact Grammar.eq_or_apart given mem

/-! ## What does not -/

theorem not_isEdge_of_isInner {c : Char} (h : isInner c = true) : isEdge c = false := by
  refine Bool.eq_false_iff.mpr fun edge => ?_
  simp only [isEdge, Bool.or_eq_true_iff, beq_iff_eq] at edge
  rcases edge with ((rfl | rfl) | rfl) | rfl <;> exact absurd h (by decide)

/-- Of a mark there are no names, and no first line, string or comment ends at it. -/
theorem Opens.outer (opens : Opens before mark) :
    ∀ c ∈ mark, isNameChar c = false ∧ isEdge c = false := by
  cases opens with
  | line => exact List.forall_mem_nil _
  | separator listed =>
    have outer : ∀ mark ∈ [[';'], ['&', '&'], ['|', '|']], ∀ c ∈ mark,
        isNameChar c = false ∧ isEdge c = false := by decide
    exact outer mark listed
  | pipe => decide

/-- The rule for keywords leaves a free name. -/
theorem IsFree.keyword_apart (free : IsFree front name back) (named : IsName front name back)
    (introduced : shell.Introduces (front ++ (name ++ back)) 3 token) :
    token.IsApart front name := by
  by_contra common
  exact free.2 (exists_keyword_of_not_apart introduced rfl named.clear named.ends common)

/-- **A free name behind a mark** is a token, if a rule prefers it there and what the rules from the
one for keywords on claim before is apart from it, and from what stands between the mark and it. -/
theorem IsFree.covers_behind {rule : Rule} {p : Pattern}
    (free : IsFree (before ++ (mark ++ lead)) name back)
    (outside : IsOutside (before ++ (mark ++ lead)) name back)
    (named : IsName (before ++ (mark ++ lead)) name back)
    (here : shell.rules[number]? = some rule) (pattern : rule.pattern = Pattern.seq marks p)
    (part : rule.group = 1) (inner : IsInner p) (opens : Opens before mark)
    (between : ∀ c ∈ lead, isInner c = true)
    (prefers : ∀ after last, back = after ++ last →
      p.Prefers (State.between (before ++ mark) (lead ++ (name ++ after)) [])
        (State.between (before ++ mark ++ lead ++ name) after
          [(1, ⟨(before ++ mark ++ lead).byteSize, (before ++ mark ++ lead ++ name).byteSize⟩)]))
    (late : ∀ earlier < number, 3 ≤ earlier → ∀ token,
      shell.Introduces (before ++ (mark ++ lead) ++ (name ++ back)) earlier token →
        token.IsApart before (mark ++ lead ++ name)) :
    Covers rule.kind (before ++ (mark ++ lead)) name back := by
  have split : before ++ (mark ++ lead) ++ (name ++ back) =
      before ++ (mark ++ lead ++ (name ++ back)) := List.append_assoc ..
  have split' : before ++ (mark ++ lead) ++ (name ++ back) =
      before ++ ((mark ++ (lead ++ name)) ++ back) := by
    simp only [List.append_assoc]
  have inside : ∀ c ∈ lead ++ name, isInner c = true := List.forall_mem_append.mpr
    ⟨between, fun c mem => isInner_of_isNameChar (named.all c mem)⟩
  have quiet : ∀ c ∈ mark ++ lead ++ name, isEdge c = false := by
    rw [List.append_assoc]
    exact List.forall_mem_append.mpr
      ⟨fun c mem => (opens.outer c mem).2, fun c mem => not_isEdge_of_isInner (inside c mem)⟩
  have longer : (before ++ (mark ++ lead)).byteSize <
      (before ++ (mark ++ lead) ++ name).byteSize := by
    rw [Text.byteSize_append _ name]
    exact Nat.lt_add_of_pos_right (Text.byteSize_pos named.nonempty)
  refine covers_of_introduces here (exists_introduces here pattern part inner opens split'
    (List.append_ne_nil_of_right_ne_nil lead named.nonempty)
    (fun c mem => inside c (List.mem_of_mem_head? mem)) longer ?_ ?_)
  · intro after last same
    simpa only [List.append_assoc] using prefers after last same
  · intro token mem
    obtain ⟨earlier, lt, introduced⟩ := Grammar.exists_introduces_lt mem
    show token.IsApart before (mark ++ (lead ++ name))
    rw [← List.append_assoc]
    rcases Nat.lt_or_ge earlier 3 with early | reached
    · have apart := outside.early_apart free.1 early introduced
      exact .append (Grammar.tokenize_cut introduced.1)
        (fun _ => early_apart early introduced split named.nonempty quiet apart) apart
    · exact late earlier lt reached token introduced

/-- **A free name where a command may stand** is a token. -/
theorem IsFree.covers_command (free : IsFree front name back)
    (outside : IsOutside front name back) (named : IsName front name back)
    (place : AtCommand front) : Covers .builtin front name back := by
  obtain ⟨before, mark, blanks, rfl, opens, spacing⟩ := place.exists_opens
  have outer : ∀ c ∈ mark ++ blanks, isNameChar c = false := List.forall_mem_append.mpr
    ⟨fun c mem => (opens.outer c mem).1, fun c mem => isNameChar_of_isSpacing (spacing c mem)⟩
  refine free.covers_behind outside named getElem_commandRule rfl rfl isInner_command opens
    (fun c mem => isInner_of_isSpacing (spacing c mem)) ?_ ?_
  · rintro after last rfl
    exact named.prefers_command (before ++ mark) spacing
  · intro number lt reached token introduced
    have cut := Grammar.tokenize_cut introduced.1
    have apart (all : ∀ c ∈ token.text, isNameChar c = true)
        (apart : token.IsApart (before ++ (mark ++ blanks)) name) :
        token.IsApart before (mark ++ blanks ++ name) :=
      .append cut (fun some => apart_of_outer cut (List.append_assoc ..) some all outer) apart
    obtain rfl | rfl : number = 3 ∨ number = 4 := by omega
    · exact apart (keyword_named introduced) (free.keyword_apart named introduced)
    · exact apart (wrapped_spec introduced).1 (wrapped_apart introduced rfl named place)

/-- No keyword reaches into a free name behind a wrapper, nor into the wrapper and the blanks. -/
theorem IsFree.keyword_apart_wrapped
    (free : IsFree (front ++ (lead ++ (wrapper.toList ++ blanks))) name back)
    (named : IsName (front ++ (lead ++ (wrapper.toList ++ blanks))) name back)
    (listed : wrapper ∈ wrappers) (some : blanks ≠ [])
    (outer : ∀ c ∈ lead, isNameChar c = false) (outer' : ∀ c ∈ blanks, isNameChar c = false)
    (clear : (front ++ lead).getLast?.any isNameChar = false)
    (introduced : shell.Introduces
      (front ++ (lead ++ (wrapper.toList ++ blanks)) ++ (name ++ back)) 3 token) :
    token.IsApart front (lead ++ (wrapper.toList ++ (blanks ++ name))) := by
  have cut := Grammar.tokenize_cut introduced.1
  have all := keyword_named introduced
  have ends : (blanks ++ (name ++ back)).head?.any isNameChar = false := by
    obtain ⟨c, more, rfl⟩ := List.exists_cons_of_ne_nil some
    exact outer' c List.mem_cons_self
  have split : front ++ (lead ++ (wrapper.toList ++ blanks)) ++ (name ++ back) =
      front ++ (lead ++ (wrapper.toList ++ (blanks ++ (name ++ back)))) := by
    simp only [List.append_assoc]
  have split' := split.trans (List.append_assoc front _ _).symm
  have split'' := split'.trans (List.append_assoc (front ++ lead) _ _).symm
  have first (some : lead ≠ []) : token.IsApart front lead :=
    apart_of_outer cut split some all outer
  have second : token.IsApart (front ++ lead) wrapper.toList := by
    by_contra common
    exact not_holdsKeyword_wrapper listed
      (exists_keyword_of_not_apart introduced split' clear ends common)
  have third : token.IsApart (front ++ lead ++ wrapper.toList) blanks :=
    apart_of_outer cut split'' some all outer'
  have fourth : token.IsApart (front ++ lead ++ wrapper.toList ++ blanks) name := by
    simpa only [List.append_assoc] using free.keyword_apart named introduced
  exact .append cut first (.append cut (fun _ => second) (.append cut (fun _ => third) fourth))

/-- **A free name behind a wrapper** is a token. -/
theorem IsFree.covers_wrapped (free : IsFree front name back)
    (outside : IsOutside front name back) (named : IsName front name back)
    (place : AfterWrapper front) : Covers .function front name back := by
  obtain ⟨_, wrapper, listed, blanks, rfl, some, spacing, place⟩ := place
  have clear := place.not_named
  obtain ⟨before, mark, lead, rfl, opens, leads⟩ := place.exists_opens
  have outer : ∀ c ∈ mark ++ lead, isNameChar c = false := List.forall_mem_append.mpr
    ⟨fun c mem => (opens.outer c mem).1, fun c mem => isNameChar_of_isSpacing (leads c mem)⟩
  have outer' : ∀ c ∈ blanks, isNameChar c = false :=
    fun c mem => isNameChar_of_isSpacing (spacing c mem)
  have same : before ++ (mark ++ lead) ++ (wrapper.toList ++ blanks) =
      before ++ (mark ++ lead ++ (wrapper.toList ++ blanks)) := List.append_assoc ..
  rw [same] at free outside named ⊢
  have late {token : Token} (introduced : shell.Introduces
      (before ++ (mark ++ lead ++ (wrapper.toList ++ blanks)) ++ (name ++ back)) 3 token) :=
    free.keyword_apart_wrapped named listed some outer outer' clear introduced
  rw [List.append_assoc mark] at free outside named late ⊢
  refine free.covers_behind outside named getElem_wrappedRule rfl rfl isInner_wrapped opens
    ?_ ?_ ?_
  · simp only [List.forall_mem_append]
    exact ⟨fun c mem => isInner_of_isSpacing (leads c mem),
      fun c mem => isInner_of_isNameChar ((wrappers_spelled wrapper listed).2 c mem).1,
      fun c mem => isInner_of_isSpacing (spacing c mem)⟩
  · rintro after last rfl
    have prefers := named.prefers_wrapped (before ++ mark) listed leads spacing some
    simpa only [List.append_assoc] using prefers
  · intro number lt reached token introduced
    obtain rfl : number = 3 := by omega
    simpa only [List.append_assoc] using late introduced

/-- A name that holds a keyword is that keyword, or has a hyphen. -/
theorem HoldsKeyword.keyword_or_hyphen (holds : HoldsKeyword name back)
    (all : ∀ c ∈ name, isNameChar c = true) :
    (∃ keyword ∈ keywords, name = keyword.toList) ∨ '-' ∈ name := by
  refine or_iff_not_imp_right.mpr fun none => holds.eq_keyword fun c mem => ?_
  have named := all c mem
  have differ : (c == '-') = false := beq_eq_false_iff_ne.mpr fun same => none (same ▸ mem)
  rw [isNameChar, differ, Bool.or_false, Bool.or_eq_true_iff] at named
  rcases named with letter | line
  · exact Unicode.isWord_of_isAlphanum letter
  · rw [eq_of_beq line]
    decide

/-- **Commands are tokens**: outside strings and comments the name of a command, a run of the
characters of names at a place where a command may stand, is covered by one token of the kind for
commands, and behind a wrapper by one for functions, if and only if no first line reaches into it
and no keyword stands alone in it. Such a keyword is the name itself, or the name has a hyphen. -/
theorem covers_iff_isFree (named : IsName front name back) (outside : IsOutside front name back) :
    (AtCommand front → (Covers .builtin front name back ↔ IsFree front name back)) ∧
      (AfterWrapper front → (Covers .function front name back ↔ IsFree front name back)) ∧
        (HoldsKeyword name back →
          (∃ keyword ∈ keywords, name = keyword.toList) ∨ '-' ∈ name) := by
  refine ⟨fun place => ⟨fun covers => ?_, fun free => ?_⟩,
    fun place => ⟨fun covers => ?_, fun free => ?_⟩, fun holds => ?_⟩
  · exact covers.isFree outside place.clear (by decide) (by decide)
  · exact free.covers_command outside named place
  · exact covers.isFree outside place.clear (by decide) (by decide)
  · exact free.covers_wrapped outside named place
  · exact holds.keyword_or_hyphen named.all

/-- A command behind a wrapper. -/
theorem covers_iff_isFree_sudo : Covers .builtin [] "sudo".toList " mkdir".toList ∧
    Covers .function "sudo ".toList "mkdir".toList [] := by
  have tokens : (shell.tokenize "sudo mkdir".toList).tokens =
      [⟨"sudo".toList, 0, .builtin, 1⟩, ⟨"mkdir".toList, 5, .function, 0⟩] := by
    decide +kernel
  have first : tokensAround [] "sudo".toList " mkdir".toList = _ := tokens
  have second : tokensAround "sudo ".toList "mkdir".toList [] = _ := tokens
  have plain {name back : Text} (letters : ∀ c ∈ name, Unicode.isWord c = true)
      (differ : ∀ keyword ∈ keywords, name ≠ keyword.toList) : ¬ HoldsKeyword name back := by
    intro holds
    obtain ⟨keyword, listed, same⟩ := holds.eq_keyword letters
    exact differ keyword listed same
  constructor
  · refine ((covers_iff_isFree ?_ ?_).1 ?_).mpr ⟨?_, plain (by decide) (by decide)⟩
    · exact ⟨by decide, by decide, by decide, rfl, by decide⟩
    · rw [IsOutside, first]
      decide
    · exact ⟨[], [], rfl, by decide, .inl rfl⟩
    · rw [first]
      decide
  · refine ((covers_iff_isFree ?_ ?_).2.1 ?_).mpr ⟨?_, plain (by decide) (by decide)⟩
    · exact ⟨by decide, by decide, by decide, by decide, rfl⟩
    · rw [IsOutside, second]
      decide
    · exact ⟨[], "sudo", by decide, [' '], rfl, by decide, by decide, [], [], rfl, by decide,
        .inl rfl⟩
    · rw [second]
      decide

/-- A command whose name has a hyphen behind a keyword, which is all that is found of it. -/
theorem hyphenated_not_covers : IsName [] "for-each".toList " x".toList ∧ AtCommand [] ∧
    IsOutside [] "for-each".toList " x".toList ∧
      (∀ keyword ∈ keywords, "for-each".toList ≠ keyword.toList) ∧
        ¬ Covers .builtin [] "for-each".toList " x".toList := by
  have tokens : tokensAround [] "for-each".toList " x".toList =
      [⟨"for".toList, 0, .keyword, 0⟩] := by
    decide +kernel
  refine ⟨⟨by decide, by decide, by decide, rfl, by decide⟩, ⟨[], [], rfl, by decide, .inl rfl⟩,
    ?_, by decide, ?_⟩
  · rw [IsOutside, tokens]
    decide
  · rintro ⟨token, mem, kind, -⟩
    rw [tokens, List.mem_singleton] at mem
    rw [mem] at kind
    cases kind

end Shell

end Highlight
