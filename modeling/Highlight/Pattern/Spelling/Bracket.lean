import Highlight.Pattern.Spelling.Escape

/-!
# Bracketed classes

A class in brackets: members and intervals, named classes, classes inside the class, and the three
operators between them. An operator takes everything on its left as its first operand. A `]` right
after the opening, and hyphens there or where no interval can follow, stand for themselves.
-/

namespace Highlight.Pattern.Spelling

/-- A set together with how deep its spelling is nested. -/
structure ClassPart where
  members : Unicode.Ranges
  depth : Nat

/-- The operators between parts of a class. -/
inductive ClassOperator where
  | intersection
  | difference
  | symmetricDifference

/-- The ASCII classes by name. -/
def asciiClasses : List (String × Unicode.Ranges) := [
  ("alnum", [(0x30, 0x39), (0x41, 0x5A), (0x61, 0x7A)]),
  ("alpha", [(0x41, 0x5A), (0x61, 0x7A)]),
  ("ascii", [(0x00, 0x7F)]),
  ("blank", [(0x09, 0x09), (0x20, 0x20)]),
  ("cntrl", [(0x00, 0x1F), (0x7F, 0x7F)]),
  ("digit", asciiDigit),
  ("graph", [(0x21, 0x7E)]),
  ("lower", [(0x61, 0x7A)]),
  ("print", [(0x20, 0x7E)]),
  ("punct", [(0x21, 0x2F), (0x3A, 0x40), (0x5B, 0x60), (0x7B, 0x7E)]),
  ("space", asciiBlank),
  ("upper", [(0x41, 0x5A)]),
  ("word", asciiWord),
  ("xdigit", [(0x30, 0x39), (0x41, 0x46), (0x61, 0x66)])]

/-- An ASCII class in its own brackets, whose opening bracket has been read: whether it is negated,
its members and what follows it. -/
def asciiBracket? : Text → Option (Bool × Unicode.Ranges × Text)
  | ':' :: inside =>
    let (negated, named) := match inside with
      | '^' :: rest => (true, rest)
      | _ => (false, inside)
    match named.dropWhile (· != ':') with
    | ':' :: ']' :: rest =>
      let name := named.takeWhile (· != ':')
      (asciiClasses.find? fun entry => entry.1.toList = name).map fun entry =>
        (negated, entry.2, rest)
    | _ => none
  | _ => none

/-- A member or one end of an interval. -/
def readMember : Reading Escape := do
  match ← remaining with
  | [] => throw .unclosedClass
  | '\\' :: rest => continueWith rest; readEscape
  | c :: rest => continueWith rest; return .literal c false

/-- The character that an escape stands for in a class. Without Unicode it has to be an ASCII one.
-/
def memberChar : Escape → Reading Char
  | .literal c _ => do
    let flags ← currentFlags
    if !flags.unicode && 128 ≤ c.toNat then throw .notText else return c
  | _ => throw .classRange

/-- The set that an escape stands for in a class. -/
def memberSet : Escape → Reading Unicode.Ranges
  | .chars members => return members
  | .assertion _ => throw .classMember
  | member => do
    let c ← memberChar member
    return [(c.toNat, c.toNat)]

/-- A member, or an interval where a hyphen joins two characters. A hyphen before the closing
bracket or before another hyphen joins nothing. -/
def readInterval : Reading Unicode.Ranges := do
  let first ← readMember
  let (c, rest) ← remainingOr .unclosedClass
  let flags ← currentFlags
  let following := if flags.verbose then glimpse false rest <|> rest.head? else rest.head?
  if c != '-' || following == some ']' || following == some '-' then
    memberSet first
  else
    continueWith rest
    let _ ← remainingOr .unclosedClass
    let last ← readMember
    let first ← memberChar first
    let last ← memberChar last
    if first.toNat ≤ last.toNat then return [(first.toNat, last.toNat)] else throw .classRange

/-- Parts side by side, the last one first. -/
def unite : List ClassPart → ClassPart
  | [] => ⟨[], 0⟩
  | [part] => part
  | parts =>
    ⟨Unicode.Ranges.unions (parts.reverse.map (·.members)),
      (parts.map (·.depth)).foldl max 0 + 1⟩

/-- Two parts joined by an operator. Each is folded first, so disregard of case comes before the
operation. -/
def operate (flags : Flags) : ClassOperator → ClassPart → ClassPart → ClassPart
  | operator, a, b =>
    let left := foldMembers flags a.members
    let right := foldMembers flags b.members
    let joined := match operator with
      | .intersection => Unicode.Ranges.inter left right
      | .difference => Unicode.Ranges.diff left right
      | .symmetricDifference => Unicode.Ranges.symmDiff left right
    ⟨joined, max a.depth b.depth + 1⟩

/-- What has been read of a class: the pending operator with its left side, and the parts since. -/
def settle (flags : Flags) (pending : Option (ClassOperator × ClassPart))
    (parts : List ClassPart) : ClassPart :=
  match pending with
  | none => unite parts
  | some (operator, left) => operate flags operator left (unite parts)

/-- The hyphen as a member. -/
def hyphen : ClassPart := ⟨[(0x2D, 0x2D)], 0⟩

/-- The closing bracket as a member. -/
def closingBracket : ClassPart := ⟨[(0x5D, 0x5D)], 0⟩

/-- Hyphens right after the opening stand for themselves. -/
def readLeadingHyphens : Nat → List ClassPart → Reading (List ClassPart)
  | 0, _ => throw .unclosedClass
  | fuel + 1, parts => do
    let (c, rest) ← remainingOr .unclosedClass
    if c = '-' then
      continueWith rest
      readLeadingHyphens fuel (hyphen :: parts)
    else return parts

/-- The opening of a class after its bracket: whether it is negated, and the members that would
have another meaning further on. -/
def readOpening : Reading (Bool × List ClassPart) := do
  let (c, rest) ← remainingOr .unclosedClass
  let negated := c == '^'
  if negated then continueWith rest
  let hyphens ← readLeadingHyphens (rest.length + 2) []
  let (c, rest) ← remainingOr .unclosedClass
  if hyphens.isEmpty && c == ']' then
    continueWith rest
    let _ ← remainingOr .unclosedClass
    return (negated, [closingBracket])
  else return (negated, hyphens)

/-- The rest of a class up to its closing bracket. -/
def readParts (negated : Bool) :
    Nat → Option (ClassOperator × ClassPart) → List ClassPart → Reading ClassPart
  | 0, _, _ => throw .unclosedClass
  | fuel + 1, pending, parts => do
    let _ ← remainingOr .unclosedClass
    let flags ← currentFlags
    match ← remaining with
    | '[' :: rest =>
      match asciiBracket? rest with
      | some (negatedName, members, rest) =>
        continueWith rest
        let part := ⟨← finishClass negatedName members, 0⟩
        readParts negated fuel pending (part :: parts)
      | none =>
        continueWith rest
        let (inner, first) ← readOpening
        let part ← readParts inner fuel none first
        readParts negated fuel pending (part :: parts)
    | ']' :: rest =>
      continueWith rest
      let whole := settle flags pending parts
      return ⟨← finishClass negated whole.members, whole.depth + 1⟩
    | '&' :: '&' :: rest =>
      continueWith rest
      readParts negated fuel (some (.intersection, settle flags pending parts)) []
    | '-' :: '-' :: rest =>
      continueWith rest
      readParts negated fuel (some (.difference, settle flags pending parts)) []
    | '~' :: '~' :: rest =>
      continueWith rest
      readParts negated fuel (some (.symmetricDifference, settle flags pending parts)) []
    | _ =>
      let members ← readInterval
      readParts negated fuel pending (⟨members, 0⟩ :: parts)

/-- A class whose opening bracket has been read. -/
def readClass : Reading ClassPart := do
  let fuel := (← remaining).length + 1
  let (negated, first) ← readOpening
  readParts negated fuel none first

end Highlight.Pattern.Spelling
