import Highlight.Pattern.Automaton.Size
import Highlight.Pattern.Spelling.Bracket
import Highlight.Pattern.Spelling.Group

/-!
# Reading patterns

`Pattern.ofText` reads the spelling of a pattern: alternatives, sequences, repetition, groups,
classes, assertions and flags. Flags set inside a group hold until it closes, across alternatives.
A spelling nested too deeply, or one whose automaton would be too large, is refused like any other
malformed one.
-/

namespace Highlight.Pattern.Spelling

/-- A part of a pattern, how deep its spelling is nested, and whether it can be repeated: a change
of flags cannot. -/
structure Part where
  expression : Expression
  depth : Nat
  repeatable : Bool

/-- How deep a spelling may be nested. -/
def depthLimit : Nat := 250

/-- Parts in order, the last one first. A single part is not nested. -/
def sequence (parts : List Part) : Part :=
  let depth := (parts.map (·.depth)).foldl max 0
  ⟨.sequence (parts.reverse.map (·.expression)),
    if parts.length ≤ 1 then depth else depth + 1, true⟩

/-- A choice between alternatives: `last` is the last of them, and the others come last first. -/
def choice (last : Part) : List Part → Part
  | [] => last
  | others =>
    let all := (last :: others).reverse
    ⟨.choice (all.map (·.expression)), (all.map (·.depth)).foldl max 0 + 1, true⟩

/-- The greed of a repetition: a question mark after it turns the flag's choice around. -/
def readGreed : Reading Greed := do
  let flags ← currentFlags
  match ← remaining with
  | '?' :: rest =>
    continueWith rest
    return if flags.swapGreed then .greedy else .lazy
  | _ => return if flags.swapGreed then .lazy else .greedy

/-- Repeat the last part read. -/
def repeatLast (least : Nat) (most : Option Nat) (greed : Greed) :
    List Part → Reading (List Part)
  | [] => throw .nothingToRepeat
  | part :: parts =>
    if part.repeatable then
      return ⟨.repeated least most greed part.expression, part.depth + 1, true⟩ :: parts
    else throw .nothingToRepeat

/-- One more than the largest count that can be written. -/
def countBound : Nat := Nat.pow 2 32

/-- The digits of a count. With the verbose flag what is ignored may stand between them. -/
def readCountDigits : Nat → List Char → Reading (List Char)
  | 0, digits => return digits.reverse
  | fuel + 1, digits => do
    match ← remaining with
    | [] => return digits.reverse
    | c :: rest =>
      if c.isDigit then
        continueWith rest
        skipIgnored
        readCountDigits fuel (c :: digits)
      else return digits.reverse

/-- A repetition count, with white space around it. -/
def readCount : Reading (Option Nat) := do
  let text := (← remaining).dropWhile Unicode.isWhiteSpace
  continueWith text
  let digits ← readCountDigits text.length []
  let after := (← remaining).dropWhile Unicode.isWhiteSpace
  continueWith after
  skipIgnored
  if digits.isEmpty then return none
  let count := Nat.ofDigitChars 10 digits 0
  if count < countBound then return some count else throw .repetitionCount

/-- The counts of a repetition up to the closing brace: one, or two with a comma between them of
which the second may be missing. -/
def readCounts : Reading (Nat × Option Nat) := do
  let _ ← remainingOr .repetitionCount
  let least ← readCount
  let close (least : Nat) (most : Option Nat) : Reading (Nat × Option Nat) := do
    match ← remaining with
    | '\x7d' :: rest =>
      continueWith rest
      if most.any (· < least) then throw .repetitionCount else return (least, most)
    | _ => throw .repetitionCount
  match least, ← remaining with
  | some least, ',' :: rest =>
    continueWith rest
    let (c, _) ← remainingOr .repetitionCount
    if c = '\x7d' then close least none
    else match ← readCount with
      | some most => close least (some most)
      | none => throw .repetitionCount
  | some least, _ => close least (some least)
  | none, _ => throw .repetitionCount

/-- One character, disregarding case if the flags say so. -/
def readLiteral (c : Char) (octet : Bool) : Reading Expression := do
  let flags ← currentFlags
  if flags.unicode then
    if flags.caseless then
      return .ofSet (Unicode.Ranges.ofCodes ((Unicode.caseVariants c).map Char.toNat))
    else return .literal [c]
  else if octet && 128 ≤ c.toNat then throw .notText
  else if flags.caseless && c.isAlpha then
    return .ofSet (Unicode.Ranges.ofCodes [c.toUpper.toNat, c.toLower.toNat])
  else return .literal [c]

/-- What the dot matches. -/
def dotMembers : Reading Unicode.Ranges := do
  let flags ← currentFlags
  if !flags.unicode then throw .notText
  else if flags.dotAll then return [(0, Unicode.Ranges.maximum)]
  else if flags.returns then return Unicode.Ranges.compl [(0x0A, 0x0A), (0x0D, 0x0D)]
  else return Unicode.Ranges.compl [(0x0A, 0x0A)]

/-- A single character, class or assertion. -/
def readAtom : Reading Expression := do
  let flags ← currentFlags
  match ← remaining with
  | [] => throw .nothingToRepeat
  | '\\' :: rest =>
    continueWith rest
    match ← readEscape with
    | .literal c octet => readLiteral c octet
    | .chars members => return .ofSet members
    | .assertion condition => return .check condition
  | '.' :: rest => continueWith rest; return .ofSet (← dotMembers)
  | '^' :: rest =>
    continueWith rest
    return .check (if flags.multiLine then .lineStart flags.returns else .textStart)
  | '$' :: rest =>
    continueWith rest
    return .check (if flags.multiLine then .lineEnd flags.returns else .textEnd)
  | c :: rest => continueWith rest; readLiteral c false

/-- Read alternatives up to a closing parenthesis or the end; `alternatives` and `parts` hold what
has been read of them, last first. -/
def readAlternatives : Nat → List Part → List Part → Reading Part
  | 0, _, _ => throw .tooDeep
  | fuel + 1, alternatives, parts => do
    skipIgnored
    match ← remaining with
    | [] | ')' :: _ => return choice (sequence parts) alternatives
    | '|' :: rest =>
      continueWith rest
      readAlternatives fuel (sequence parts :: alternatives) []
    | '(' :: rest =>
      continueWith rest
      let outer ← currentFlags
      match ← readOpeningGroup with
      | .setting flags =>
        setFlags flags
        readAlternatives fuel alternatives (⟨.empty, 0, false⟩ :: parts)
      | .capturing index =>
        let body ← readAlternatives fuel [] []
        readClosing outer
        let part := ⟨.group index body.expression, body.depth + 1, true⟩
        readAlternatives fuel alternatives (part :: parts)
      | .plain flags =>
        setFlags flags
        let body ← readAlternatives fuel [] []
        readClosing outer
        readAlternatives fuel alternatives (⟨body.expression, body.depth + 1, true⟩ :: parts)
    | '[' :: rest =>
      continueWith rest
      let part ← readClass
      readAlternatives fuel alternatives (⟨.ofSet part.members, part.depth, true⟩ :: parts)
    | '*' :: rest =>
      continueWith rest
      let parts ← repeatLast 0 none (← readGreed) parts
      readAlternatives fuel alternatives parts
    | '+' :: rest =>
      continueWith rest
      let parts ← repeatLast 1 none (← readGreed) parts
      readAlternatives fuel alternatives parts
    | '?' :: rest =>
      continueWith rest
      let parts ← repeatLast 0 (some 1) (← readGreed) parts
      readAlternatives fuel alternatives parts
    | '\x7b' :: rest =>
      continueWith rest
      let (least, most) ← readCounts
      skipIgnored
      let parts ← repeatLast least most (← readGreed) parts
      readAlternatives fuel alternatives parts
    | _ =>
      let expression ← readAtom
      readAlternatives fuel alternatives (⟨expression, 0, true⟩ :: parts)
where
  /-- The end of a group, after which the flags outside it hold again. -/
  readClosing (outer : Flags) : Reading Unit := do
    match ← remaining with
    | ')' :: rest =>
      continueWith rest
      setFlags outer
    | _ => throw .unclosedGroup

/-- Read a whole pattern. -/
def readAll : Reading Expression := do
  let fuel := (← remaining).length + 1
  let part ← readAlternatives fuel [] []
  if !(← remaining).isEmpty then throw .unopenedGroup
  if depthLimit < part.depth then throw .tooDeep
  if !part.expression.fits then throw .tooLarge
  return part.expression

end Spelling

/-- The pattern that a text spells. -/
def ofText (text : Text) : Except Malformed Pattern :=
  ((Spelling.readAll.run' { rest := text, flags := {}, groups := 0, names := [] }).map
    Expression.toPattern)

end Highlight.Pattern
