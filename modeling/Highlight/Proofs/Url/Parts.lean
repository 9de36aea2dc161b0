import Highlight.Grammar.Url
import Highlight.Proofs.Tokenize.Pieces

/-!
# Parts of a URL

A URL with a scheme and a host is a sequence of parts in a fixed order (`Url.pieces`), each of which
has its own form (`Part.Admits`). What the rules for URLs rely on is said here of the parts alone:
which characters a part does not have (`Part.Admits.not_mem`), which one it starts with
(`Part.Admits.head?_eq`), what follows a colon or a slash in it (`Avoids`), and in which order the
parts come (`Url.ordered`).
-/

namespace Highlight

namespace Url

/-- The parts of a URL. -/
inductive Part where
  | scheme
  | slashes
  | host
  | port
  | path
  | query
  | fragment
  deriving DecidableEq

/-- Whether a text has no blank and none of some other characters. -/
def IsPlain (banned : String) (text : Text) : Prop :=
  ∀ c ∈ text, Unicode.isWhiteSpace c = false ∧ c ∉ banned.toList

namespace Part

/-- The place of a part among the others. -/
def rank : Part → Nat
  | scheme => 0
  | slashes => 1
  | host => 2
  | port => 3
  | path => 4
  | query => 5
  | fragment => 6

/-- The category of a part. -/
def kind : Part → TokenType
  | scheme => .urlProtocol
  | slashes => .urlSlash
  | host => .urlHost
  | port => .urlPort
  | path => .urlPath
  | query => .urlQuery
  | fragment => .urlHash

/-- All parts, in order. -/
def all : List Part := [scheme, slashes, host, port, path, query, fragment]

theorem mem_all (part : Part) : part ∈ all := by
  cases part <;> decide

/-- What holds of every part can be tried on each. -/
instance (P : Part → Prop) [DecidablePred P] : Decidable (∀ part, P part) :=
  decidable_of_iff (∀ part ∈ all, P part)
    ⟨fun h part => h part (mem_all part), fun h part _ => h part⟩

theorem kind_injective {part other : Part} (h : part.kind = other.kind) : part = other := by
  cases part <;> cases other <;> first | rfl | cases h

/-- Whether a text has the form of a part. Each part is taken with the mark that sets it off. -/
def Admits : Part → Text → Prop
  | scheme, text => ∃ letter more, text = letter :: (more ++ [':']) ∧ letter.isAlpha = true ∧
      ∀ c ∈ more, c.isAlphanum = true ∨ c ∈ "+.-".toList
  | slashes, text => text = "//".toList
  | host, text => text ≠ [] ∧ IsPlain "/?#:" text
  | port, text => ∃ digits, text = ':' :: digits ∧ digits ≠ [] ∧ ∀ c ∈ digits, c.isDigit = true
  | path, text => ∃ more, text = '/' :: more ∧ IsPlain "?#:" more ∧ ¬ "//".toList <:+: text
  | query, text => ∃ more, text = '?' :: more ∧ IsPlain "#" more
  | fragment, text => ∃ more, text = '#' :: more ∧ IsPlain "" more

end Part

/-- A text that has the form of a part. -/
abbrev TextOf (part : Part) : Type := { text : Text // part.Admits text }

/-- A part with its text. -/
structure Piece where
  part : Part
  text : TextOf part

theorem Piece.admits {piece : Piece} {part : Part} (h : piece.part = part) :
    part.Admits piece.text.val :=
  h ▸ piece.text.property

end Url

/-- A URL with a scheme and a host, and what may follow them. -/
structure Url where
  scheme : Url.TextOf .scheme
  host : Url.TextOf .host
  port : Option (Url.TextOf .port) := none
  path : Option (Url.TextOf .path) := none
  query : Option (Url.TextOf .query) := none
  fragment : Option (Url.TextOf .fragment) := none

namespace Url

/-- What follows the host. -/
def tail (url : Url) : List Piece :=
  (url.port.map (Piece.mk .port)).toList ++ (url.path.map (Piece.mk .path)).toList ++
    (url.query.map (Piece.mk .query)).toList ++ (url.fragment.map (Piece.mk .fragment)).toList

/-- The parts of a URL, in their order. -/
def pieces (url : Url) : List Piece :=
  ⟨.scheme, url.scheme⟩ :: ⟨.slashes, "//".toList, rfl⟩ :: ⟨.host, url.host⟩ :: url.tail

theorem Part.Admits.nonempty {part : Part} {text : Text} (h : part.Admits text) : text ≠ [] := by
  cases part with
  | scheme =>
    obtain ⟨letter, more, rfl, -⟩ := h
    exact List.cons_ne_nil _ _
  | slashes =>
    obtain rfl : text = "//".toList := h
    decide
  | host => exact h.1
  | port | path | query | fragment =>
    obtain ⟨more, rfl, -⟩ := h
    exact List.cons_ne_nil _ _

/-- How the parts of a URL are read. -/
def reading : Reading Piece where
  text piece := piece.text.val
  kind piece := some piece.part.kind
  nonempty piece := piece.text.property.nonempty

/-- A URL as it is written. -/
def text (url : Url) : Text := reading.code url.pieces

/-- The parts of a URL in their places, with their categories. -/
def components (url : Url) : List Classified := reading.classified 0 url.pieces

/-- Every part has a category, so nothing of a URL is left out. -/
theorem flatMap_text_classified (offset : Nat) (pieces : List Piece) :
    (reading.classified offset pieces).flatMap Classified.text = reading.code pieces := by
  induction pieces generalizing offset with
  | nil => rfl
  | cons piece pieces ih => exact congrArg (piece.text.val ++ ·) (ih _)

/-! ## Characters of parts -/

/-- Whether a character is seen not to occur in a part, by the form of the part. -/
def Part.lacks : Part → Char → Bool
  | .scheme, c => !c.isAlphanum && !"+.-:".toList.contains c
  | .slashes, c => c != '/'
  | .host, c => "/?#:".toList.contains c
  | .port, c => c != ':' && !c.isDigit
  | .path, c => c != '/' && "?#:".toList.contains c
  | .query, c => c != '?' && "#".toList.contains c
  | .fragment, _ => false

theorem IsPlain.not_mem {banned : String} {text : Text} {c : Char} (h : IsPlain banned text)
    (mem : banned.toList.contains c = true) : c ∉ text :=
  fun inText => (h c inText).2 (List.contains_iff_mem.mp mem)

theorem Part.Admits.not_mem {part : Part} {text : Text} {c : Char} (h : part.Admits text)
    (lacks : part.lacks c = true) : c ∉ text := by
  cases part with
  | scheme =>
    obtain ⟨letter, more, rfl, alpha, others⟩ := h
    obtain ⟨noName, noMark⟩ := Bool.and_eq_true_iff.mp lacks
    rw [Bool.not_eq_true'] at noName noMark
    have noMark : c ∉ "+.-:".toList := fun mem => by
      rw [List.contains_iff_mem.mpr mem] at noMark
      cases noMark
    intro mem
    rcases List.mem_cons.mp mem with rfl | mem
    · simp [Char.isAlphanum, alpha] at noName
    · rcases List.mem_append.mp mem with mem | mem
      · rcases others c mem with name | mark
        · exact Bool.false_ne_true (noName.symm.trans name)
        · exact noMark (List.mem_append_left [':'] mark)
      · exact noMark (List.mem_append_right "+.-".toList mem)
  | slashes =>
    obtain rfl : text = "//".toList := h
    have other : c ≠ '/' := bne_iff_ne.mp lacks
    simp [other]
  | host => exact h.2.not_mem lacks
  | port =>
    obtain ⟨digits, rfl, -, digit⟩ := h
    obtain ⟨other, noDigit⟩ := Bool.and_eq_true_iff.mp lacks
    refine List.not_mem_cons_of_ne_of_not_mem (bne_iff_ne.mp other) fun mem => ?_
    rw [digit c mem] at noDigit
    cases noDigit
  | path =>
    obtain ⟨more, rfl, plain, -⟩ := h
    obtain ⟨other, banned⟩ := Bool.and_eq_true_iff.mp lacks
    exact List.not_mem_cons_of_ne_of_not_mem (bne_iff_ne.mp other)
      (plain.not_mem banned)
  | query =>
    obtain ⟨more, rfl, plain⟩ := h
    obtain ⟨other, banned⟩ := Bool.and_eq_true_iff.mp lacks
    exact List.not_mem_cons_of_ne_of_not_mem (bne_iff_ne.mp other)
      (plain.not_mem banned)
  | fragment => cases lacks

/-- The character that a part behind the host starts with. -/
def Part.mark? : Part → Option Char
  | .port => some ':'
  | .path => some '/'
  | .query => some '?'
  | .fragment => some '#'
  | .scheme | .slashes | .host => none

theorem Part.Admits.head?_eq {part : Part} {text : Text} (h : part.Admits text)
    (behind : Part.host.rank < part.rank) : text.head? = part.mark? := by
  cases part with
  | scheme | slashes | host => exact absurd behind (by decide)
  | port | path | query | fragment =>
    obtain ⟨more, rfl, -⟩ := h
    rfl

/-- Whether a character is nowhere followed by another. -/
def Avoids (c d : Char) (text : Text) : Prop :=
  ∀ front rest, text = front ++ c :: rest → rest.head? ≠ some d

theorem avoids_of_not_mem {c : Char} {text : Text} (absent : c ∉ text) (d : Char) :
    Avoids c d text := by
  rintro front rest rfl
  exact absurd (List.mem_append_right front List.mem_cons_self) absent

theorem Avoids.append {c d : Char} {text more : Text} (h : Avoids c d text)
    (h' : Avoids c d more) (between : text.getLast? ≠ some c ∨ more.head? ≠ some d) :
    Avoids c d (text ++ more) := by
  intro front rest split
  rcases List.append_eq_append_iff.mp split with ⟨later, -, parts⟩ | ⟨later, rfl, parts⟩
  · exact h' later rest parts
  · cases later with
    | nil => exact h' [] rest parts.symm
    | cons e later =>
      obtain ⟨rfl, rfl⟩ := List.cons.inj parts
      cases later with
      | nil =>
        rw [List.getLast?_concat] at between
        exact between.resolve_left (fun other => other rfl)
      | cons e' later => exact h front (e' :: later) rfl

/-- In a path no slash follows a slash. -/
theorem Part.Admits.avoids_path {text : Text} (h : Part.path.Admits text) :
    Avoids '/' '/' text := by
  obtain ⟨-, -, -, noSlashes⟩ := h
  rintro front rest rfl second
  obtain ⟨more, rfl⟩ := List.head?_eq_some_iff.mp second
  exact noSlashes ⟨front, more, by simp⟩

/-- In a port a digit follows the colon. -/
theorem Part.Admits.avoids_port {text : Text} (h : Part.port.Admits text) :
    Avoids ':' '/' text := by
  obtain ⟨digits, rfl, -, digit⟩ := h
  have noColon : ':' ∉ digits := fun mem => absurd (digit ':' mem) (by decide)
  intro front rest split slash
  cases front with
  | nil =>
    obtain ⟨-, rfl⟩ := List.cons.inj split
    obtain ⟨more, rfl⟩ := List.head?_eq_some_iff.mp slash
    exact absurd (digit '/' List.mem_cons_self) (by decide)
  | cons c front =>
    obtain ⟨-, rfl⟩ := List.cons.inj split
    exact noColon (List.mem_append_right front List.mem_cons_self)

/-- A port ends with a digit. -/
theorem Part.Admits.getLast?_port {text : Text} (h : Part.port.Admits text) :
    text.getLast?.any Char.isDigit = true := by
  obtain ⟨digits, rfl, some, digit⟩ := h
  exact Text.any_getLast?_append some digit [':']

/-! ## The order of parts -/

variable {url : Url} {pre run post : List Piece} {piece : Piece}

/-- The parts stand in their order. -/
theorem ordered (url : Url) : url.pieces.Pairwise fun a b => a.part.rank < b.part.rank := by
  obtain ⟨scheme, host, port, path, query, fragment⟩ := url
  cases port <;> cases path <;> cases query <;> cases fragment <;>
    simp [pieces, tail, Part.rank]

theorem rank_lt_of_mem (split : url.pieces = pre ++ piece :: post) {other : Piece}
    (mem : other ∈ post) : piece.part.rank < other.part.rank := by
  have ordered := url.ordered
  rw [split] at ordered
  exact List.rel_of_pairwise_cons (List.pairwise_append.mp ordered).2.1 mem

/-- What follows the scheme are the slashes, and then the host. -/
theorem exists_of_scheme (split : url.pieces = pre ++ piece :: post)
    (here : piece.part = .scheme) : pre = [] ∧ ∃ slashes host more,
      post = slashes :: host :: more ∧ slashes.part = .slashes ∧ host.part = .host := by
  cases pre with
  | nil =>
    obtain ⟨-, rfl⟩ := List.cons.inj split
    exact ⟨rfl, _, _, _, rfl, rfl, rfl⟩
  | cons first pre =>
    have before := url.ordered
    rw [split] at before
    have lt := (List.pairwise_cons.mp before).1 piece (by simp)
    rw [here] at lt
    exact absurd lt (Nat.not_lt_zero _)

end Url

end Highlight
