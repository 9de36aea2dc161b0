import Highlight.Proofs.Markup.Render

/-!
# Queries before they are escaped

The spans of an escaped query are those of the query itself (`query_escape`): in escaped text the
entity of the ampersand stands where an ampersand stood and nowhere else (`pairs_escape`), and no
entity holds an equals sign or a question mark. So a query may be cut at its bare characters first
and escaped piece by piece.
-/

namespace Highlight.Markup

variable {text : Text} {c : Char}

/-- A character that is in no entity is in escaped text where it was before. -/
theorem mem_of_mem_escape (foreign : ∀ entity ∈ entities, c ∉ entity) (mem : c ∈ escape text) :
    c ∈ text := by
  rw [escape_eq_flatMap] at mem
  obtain ⟨d, there, mem⟩ := List.mem_flatMap.mp mem
  rcases escapeChar_cases d with entity | ⟨alone, _⟩
  · exact absurd mem (foreign _ entity)
  · rw [alone] at mem
    rwa [List.mem_singleton.mp mem]

theorem escapeChar_ne_nil (c : Char) : escapeChar c ≠ [] := by
  rcases escapeChar_cases c with entity | ⟨alone, _⟩
  · have nonempty : ∀ entity ∈ entities, entity ≠ [] := by decide
    exact nonempty _ entity
  · rw [alone]
    exact List.cons_ne_nil c []

/-- Nothing but the empty text is escaped to the empty text. -/
theorem isEmpty_escape (text : Text) : (escape text).isEmpty = text.isEmpty := by
  cases text with
  | nil => rfl
  | cons c rest =>
    rw [escape_cons]
    exact List.isEmpty_eq_false_iff.mpr
      (List.append_ne_nil_of_left_ne_nil (escapeChar_ne_nil c) _)

namespace Query

/-- A stretch of a query that is not escaped: a part of it, or text that is no part. -/
structure Stretch where
  part : Option QueryPart
  text : Text
  deriving DecidableEq, Repr

/-- A stretch as markup. -/
def Stretch.markup (classPrefix : Text) (stretch : Stretch) : Text :=
  match stretch.part with
  | none => escape stretch.text
  | some kind => span classPrefix kind.name (escape stretch.text)

/-- The stretches of a piece between ampersands, which is cut at its first equals sign. A piece
without a key in front of that is one stretch and no part. -/
def pieceStretches (piece : Text) : List Stretch :=
  match piece.takeWhile (· != '='), piece.dropWhile (· != '=') with
  | [], _ => [⟨none, piece⟩]
  | key, [] => [⟨some .key, key⟩]
  | key, equals :: value =>
    ⟨some .key, key⟩ :: ⟨some .equals, [equals]⟩ ::
      (if value = [] then [] else [⟨some .value, value⟩])

/-- The stretches of a query behind its question mark: those of the pieces, and the ampersands. -/
def bodyStretches (body : Text) : List Stretch :=
  List.intercalate [⟨some .separator, ['&']⟩] ((List.splitOn '&' body).map pieceStretches)

/-- The stretches of a query. -/
def stretches : Text → List Stretch
  | '?' :: body => ⟨some .mark, ['?']⟩ :: bodyStretches body
  | body => bodyStretches body

/-! ## Where an escaped query is divided -/

/-- Where no separator begins, the first pair goes on. -/
theorem pairs_cons {rest : Text} (none : ¬ separator <+: c :: rest) :
    pairs (c :: rest) = (pairs rest).modifyHead (c :: ·) := by
  generalize whole : c :: rest = text at none ⊢
  fun_cases pairs text with
  | case1 rest => exact absurd (List.prefix_append separator rest) none
  | case2 _ rest _ nothing => exact absurd nothing (pairs_ne_nil rest)
  | case3 _ _ _ pair more split =>
    obtain ⟨rfl, rfl⟩ := List.cons.inj whole
    rw [split]
    rfl
  | case4 => cases whole

/-- A text without ampersands belongs to the first pair. -/
theorem pairs_append {front : Text} (plain : '&' ∉ front) (rest : Text) :
    pairs (front ++ rest) = (pairs rest).modifyHead (front ++ ·) := by
  induction front with
  | nil => exact (congrFun List.modifyHead_id (pairs rest)).symm
  | cons c front ih =>
    obtain ⟨first, others⟩ := List.ne_and_not_mem_of_not_mem_cons plain
    rw [List.cons_append, pairs_cons fun begins => first (List.cons_prefix_cons.mp begins).1,
      ih others, List.modifyHead_modifyHead]
    rfl

/-- So does another entity than that of the ampersand. -/
theorem pairs_entity (first : Char) (name : Text) (other : first ≠ 'a')
    (plain : '&' ∉ first :: name) (rest : Text) :
    pairs ('&' :: first :: name ++ rest) =
      (pairs rest).modifyHead ('&' :: first :: name ++ ·) := by
  have none : ¬ separator <+: '&' :: (first :: name ++ rest) := by
    intro begins
    have second := (List.cons_prefix_cons.mp begins).2
    exact other (List.cons_prefix_cons.mp second).1.symm
  rw [List.cons_append, pairs_cons none, pairs_append plain, List.modifyHead_modifyHead]
  rfl

/-- An escaped character other than the ampersand belongs to the first pair. -/
theorem pairs_escapeChar (amp : c ≠ '&') (rest : Text) :
    pairs (escapeChar c ++ rest) = (pairs rest).modifyHead (escapeChar c ++ ·) := by
  by_cases lt : c = '<'
  · subst lt
    exact pairs_entity 'l' "t;" (by decide) (by decide) rest
  by_cases gt : c = '>'
  · subst gt
    exact pairs_entity 'g' "t;" (by decide) (by decide) rest
  by_cases quote : c = '"'
  · subst quote
    exact pairs_entity 'q' "uot;" (by decide) (by decide) rest
  rw [escapeChar_of_ne amp lt gt quote]
  exact pairs_append (by simpa using Ne.symm amp) rest

/-- **The pairs of an escaped query** are its pieces between ampersands, escaped. -/
theorem pairs_escape (text : Text) : pairs (escape text) = (List.splitOn '&' text).map escape := by
  induction text with
  | nil => rfl
  | cons c rest ih =>
    rw [escape_cons, List.splitOn_cons_eq_if_modifyHead]
    by_cases amp : c = '&'
    · subst amp
      rw [if_pos (by decide), List.map_cons, ← ih]
      rfl
    · rw [if_neg (by simpa using amp), pairs_escapeChar amp, ih]
      cases pieces : List.splitOn '&' rest with
      | nil => rfl
      | cons piece more => simp only [List.map_cons, List.modifyHead_cons, escape_cons]

/-! ## Pieces -/

variable {classPrefix : Text}

/-- A text without equals signs stands in front of the first one. -/
theorem cut_append {front : Text} (absent : '=' ∉ front) (rest : Text) :
    (front ++ rest).takeWhile (· != '=') = front ++ rest.takeWhile (· != '=') ∧
      (front ++ rest).dropWhile (· != '=') = rest.dropWhile (· != '=') := by
  have before : ∀ c ∈ front, (c != '=') = true := fun c mem =>
    bne_iff_ne.mpr fun same => absent (same ▸ mem)
  exact ⟨List.takeWhile_append_of_pos before, List.dropWhile_append_of_pos before⟩

/-- A piece with an equals sign behind a key has a key and, unless it is empty, a value. -/
theorem pieceStretches_append {key : Text} (nonempty : key ≠ []) (absent : '=' ∉ key)
    (value : Text) : pieceStretches (key ++ '=' :: value) =
      ⟨some .key, key⟩ :: ⟨some .equals, ['=']⟩ ::
        (if value = [] then [] else [⟨some .value, value⟩]) := by
  obtain ⟨front, back⟩ := cut_append absent ('=' :: value)
  have front : (key ++ '=' :: value).takeWhile (· != '=') = key :=
    front.trans (List.append_nil key)
  unfold pieceStretches
  rw [front, back]
  cases key with
  | nil => exact absurd rfl nonempty
  | cons c key => rfl

/-- A piece without an equals sign is a key. -/
theorem pieceStretches_of_not_mem {piece : Text} (nonempty : piece ≠ []) (absent : '=' ∉ piece) :
    pieceStretches piece = [⟨some .key, piece⟩] := by
  obtain ⟨front, back⟩ := cut_append absent []
  rw [List.append_nil] at front back
  have front : piece.takeWhile (· != '=') = piece := front.trans (List.append_nil piece)
  unfold pieceStretches
  rw [front, back]
  cases piece with
  | nil => exact absurd rfl nonempty
  | cons c piece => rfl

/-- A pair with a key in front of its first equals sign is divided there. -/
theorem pair_of_splitOnce? {key value : Text} (split : text.splitOnce? '=' = some (key, value))
    (nonempty : key ≠ []) : pair classPrefix text =
      part classPrefix .key key ++ part classPrefix .equals "=" ++
        (if value.isEmpty then [] else part classPrefix .value value) := by
  unfold pair
  rw [split]
  cases key with
  | nil => exact absurd rfl nonempty
  | cons c key => rfl

/-- **A pair of an escaped query** is marked as the piece it comes from. -/
theorem pair_escape (classPrefix piece : Text) : pair classPrefix (escape piece) =
    (pieceStretches piece).flatMap (Stretch.markup classPrefix) := by
  have foreign : ∀ entity ∈ entities, '=' ∉ entity := by decide
  by_cases mem : '=' ∈ piece
  · obtain ⟨key, value, rfl, absent⟩ := List.eq_append_cons_of_mem mem
    have split : (escape (key ++ '=' :: value)).splitOnce? '=' =
        some (escape key, escape value) := by
      rw [escape_append, escape_cons]
      exact Text.splitOnce?_append (fun mem => absent (mem_of_mem_escape foreign mem)) _
    by_cases empty : key = []
    · subst empty
      unfold pair
      rw [split]
      exact (List.append_nil _).symm
    · have escaped : escape key ≠ [] := by
        rw [← List.isEmpty_eq_false_iff, isEmpty_escape]
        exact List.isEmpty_eq_false_iff.mpr empty
      rw [pair_of_splitOnce? split escaped, pieceStretches_append empty absent, isEmpty_escape]
      by_cases none : value = []
      · subst none
        simp only [List.flatMap_cons, List.isEmpty_nil, if_true, List.flatMap_nil,
          List.append_nil]
        rfl
      · rw [if_neg none, if_neg (by simpa using none)]
        simp only [List.flatMap_cons, List.flatMap_nil, List.append_nil, List.append_assoc]
        rfl
  · have split : (escape piece).splitOnce? '=' = none :=
      Text.splitOnce?_of_not_mem fun mem' => mem (mem_of_mem_escape foreign mem')
    unfold pair
    rw [split]
    dsimp only
    rw [isEmpty_escape]
    by_cases empty : piece = []
    · subst empty
      rfl
    · rw [pieceStretches_of_not_mem empty mem, if_neg (by simpa using empty)]
      exact (List.append_nil _).symm

/-- The stretches of a piece are the piece. -/
theorem flatMap_text_pieceStretches (piece : Text) :
    (pieceStretches piece).flatMap Stretch.text = piece := by
  by_cases mem : '=' ∈ piece
  · obtain ⟨key, value, rfl, absent⟩ := List.eq_append_cons_of_mem mem
    by_cases empty : key = []
    · subst empty
      exact List.append_nil _
    · rw [pieceStretches_append empty absent]
      by_cases none : value = []
      · subst none
        rfl
      · rw [if_neg none]
        simp
  · by_cases empty : piece = []
    · subst empty
      rfl
    · rw [pieceStretches_of_not_mem empty mem]
      exact List.append_nil piece

/-! ## The whole query -/

/-- A list put between lists, seen through a function of the elements. -/
theorem flatMap_intercalate {α : Type} (f : α → Text) (mark : List α) (parts : List (List α)) :
    (List.intercalate mark parts).flatMap f =
      Text.join (mark.flatMap f) (parts.map (·.flatMap f)) := by
  induction parts with
  | nil => rfl
  | cons first rest ih =>
    cases rest with
    | nil =>
      rw [List.intercalate_singleton]
      rfl
    | cons next rest =>
      rw [List.intercalate_cons_cons, List.flatMap_append, List.flatMap_append, ih]
      rfl

theorem join_eq_intercalate (mark : Text) (parts : List Text) :
    Text.join mark parts = List.intercalate mark parts := by
  induction parts with
  | nil => rfl
  | cons first rest ih =>
    cases rest with
    | nil => exact List.intercalate_singleton.symm
    | cons next rest => rw [join_cons_cons, ih, List.intercalate_cons_cons]

/-- **The spans of an escaped query** behind its question mark are those of the query. -/
theorem spans_escape (classPrefix body : Text) : spans classPrefix (escape body) =
    (bodyStretches body).flatMap (Stretch.markup classPrefix) := by
  unfold spans bodyStretches
  have mark : [(⟨some .separator, ['&']⟩ : Stretch)].flatMap (Stretch.markup classPrefix) =
      part classPrefix .separator separator :=
    List.append_nil _
  have each : pair classPrefix ∘ escape =
      (fun stretches : List Stretch => stretches.flatMap (Stretch.markup classPrefix)) ∘
        pieceStretches :=
    funext (pair_escape classPrefix)
  rw [pairs_escape, flatMap_intercalate, List.map_map, List.map_map, mark, each]

/-- The stretches behind a question mark are what is behind it. -/
theorem flatMap_text_bodyStretches (body : Text) :
    (bodyStretches body).flatMap Stretch.text = body := by
  unfold bodyStretches
  have each : (fun stretches : List Stretch => stretches.flatMap Stretch.text) ∘ pieceStretches =
      id :=
    funext flatMap_text_pieceStretches
  rw [flatMap_intercalate, List.map_map, each, List.map_id, join_eq_intercalate]
  exact List.intercalate_splitOn '&'

end Query

theorem query_of_ne (classPrefix : Text) (h : text.head? ≠ some '?') :
    query classPrefix text = Query.spans classPrefix text := by
  unfold query
  split
  · exact absurd rfl h
  · rfl

/-- Escaped text begins with a question mark if the text does. -/
theorem head?_escape_ne (h : text.head? ≠ some '?') : (escape text).head? ≠ some '?' := by
  cases text with
  | nil => exact h
  | cons c rest =>
    rw [escape_cons]
    rcases escapeChar_cases c with entity | ⟨alone, _⟩
    · have begins : ∀ entity ∈ entities, entity.head? = some '&' := by decide
      rw [List.head?_append, begins _ entity, Option.some_or]
      decide
    · rw [alone]
      exact h

/-- **Escaping a query first makes no difference.** Its spans are those of the stretches into which
the bare query falls, each escaped by itself, and these stretches are all of the query. -/
theorem query_escape (classPrefix raw : Text) :
    query classPrefix (escape raw) =
        (Query.stretches raw).flatMap (Query.Stretch.markup classPrefix) ∧
      (Query.stretches raw).flatMap Query.Stretch.text = raw := by
  unfold Query.stretches
  split
  · next body =>
    refine ⟨?_, ?_⟩
    · rw [List.flatMap_cons, ← Query.spans_escape, escape_cons]
      rfl
    · rw [List.flatMap_cons, Query.flatMap_text_bodyStretches]
      rfl
  · next h =>
    have other : raw.head? ≠ some '?' := by
      cases raw with
      | nil => simp
      | cons c rest =>
        intro first
        exact h rest (congrArg (· :: rest) (Option.some.inj first))
    refine ⟨?_, Query.flatMap_text_bodyStretches raw⟩
    rw [query_of_ne classPrefix (head?_escape_ne other), Query.spans_escape]

/-- An entity spelled out, a second equals sign, a piece without a key and one without a value. -/
example : Query.stretches "?a=&amp;x&=b&k=v=w" =
    [⟨some .mark, "?"⟩, ⟨some .key, "a"⟩, ⟨some .equals, "="⟩, ⟨some .separator, "&"⟩,
      ⟨some .key, "amp;x"⟩, ⟨some .separator, "&"⟩, ⟨none, "=b"⟩, ⟨some .separator, "&"⟩,
      ⟨some .key, "k"⟩, ⟨some .equals, "="⟩, ⟨some .value, "v=w"⟩] := by
  decide

end Highlight.Markup
