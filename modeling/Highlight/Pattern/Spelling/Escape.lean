import Highlight.Pattern.Spelling.Scan
import Highlight.Unicode.Lookup

/-!
# Escapes

What stands after a backslash: a character given by its code, a named class, a property of
characters, an assertion, or a character that would have a meaning of its own. Letters and digits
that name nothing are refused, so they stay free for a meaning.
-/

namespace Highlight.Pattern.Spelling

/-- The value of an escape. -/
inductive Escape where
  /-- A character; `octet` tells that it was given as a two-digit byte value. -/
  | literal (c : Char) (octet : Bool)
  | chars (members : Unicode.Ranges)
  | assertion (condition : Assertion)

/-- The ASCII letters, digits and the underscore. -/
def asciiWord : Unicode.Ranges := [(0x30, 0x39), (0x41, 0x5A), (0x5F, 0x5F), (0x61, 0x7A)]

/-- The ASCII blanks. -/
def asciiBlank : Unicode.Ranges := [(0x09, 0x0D), (0x20, 0x20)]

/-- The ASCII digits. -/
def asciiDigit : Unicode.Ranges := [(0x30, 0x39)]

/-- The members of a set, disregarding case if the flags say so. -/
def foldMembers (flags : Flags) (members : Unicode.Ranges) : Unicode.Ranges :=
  if !flags.caseless then members
  else if flags.unicode then members.ignoringCase
  else members.ignoringAsciiCase

/-- A class by its members, which are folded before they are negated. Without Unicode a class is one
of bytes, and a negated one holds bytes that are no text. -/
def finishClass (negated : Bool) (members : Unicode.Ranges) : Reading Unicode.Ranges := do
  let flags ← currentFlags
  let folded := foldMembers flags members
  if !negated then return folded
  else if flags.unicode then return folded.compl
  else throw .notText

/-- The value of a hexadecimal digit. -/
def hexDigit? (c : Char) : Option Nat :=
  if '0' ≤ c ∧ c ≤ '9' then some (c.toNat - '0'.toNat)
  else if 'a' ≤ c ∧ c ≤ 'f' then some (c.toNat - 'a'.toNat + 10)
  else if 'A' ≤ c ∧ c ≤ 'F' then some (c.toNat - 'A'.toNat + 10)
  else none

/-- The character with a code, if there is one. -/
def charOfCode (code : Nat) : Reading Char :=
  if code.isValidChar then return Char.ofNat code else throw .escape

/-- A code of so many digits. -/
def readDigits : Nat → Nat → Reading Nat
  | 0, value => return value
  | count + 1, value => do
    let (c, rest) ← remainingOr .escape
    match hexDigit? c with
    | none => throw .escape
    | some digit =>
      continueWith rest
      skipIgnored
      readDigits count (16 * value + digit)

/-- A code of any number of digits up to a closing brace. -/
def readBraced : Nat → Bool → Nat → Reading Nat
  | 0, _, _ => throw .escape
  | fuel + 1, started, value => do
    let (c, rest) ← remainingOr .escape
    if c = '\x7d' then
      continueWith rest
      skipIgnored
      if started then return value else throw .escape
    else match hexDigit? c with
      | none => throw .escape
      | some digit =>
        continueWith rest
        readBraced fuel true (16 * value + digit)

/-- A character given by its code, with `count` digits or in braces. -/
def readCode (count : Nat) : Reading Escape := do
  let (c, rest) ← remainingOr .escape
  if c = '\x7b' then
    continueWith rest
    let code ← readBraced (rest.length + 1) false 0
    return .literal (← charOfCode code) false
  else
    let code ← readDigits count 0
    return .literal (← charOfCode code) (count == 2)

/-- A named class or its complement. The classes have every form of their letters, so case does not
matter to them. -/
def namedClass (named ascii : Unicode.Ranges) (negated : Bool) : Reading Escape := do
  let flags ← currentFlags
  if flags.unicode then return .chars (if negated then named.compl else named)
  else if negated then throw .notText
  else return .chars ascii

/-- The two parts of a name around an exclamation mark with an equals sign after it. -/
def splitUnequal? : Text → Option (Text × Text)
  | '!' :: '=' :: rest => some ([], rest)
  | c :: rest => (splitUnequal? rest).map fun (left, right) => (c :: left, right)
  | [] => none

/-- The characters of a property. A property with many values is joined to one of them by `!=`, `:`
or `=`, which all mean the same. -/
def propertyMembers? (name : Text) : Option Unicode.Ranges :=
  match splitUnequal? name <|> name.splitOnce? ':' <|> name.splitOnce? '=' with
  | some (property, value) => Unicode.charactersWith? property value
  | none => Unicode.characters? name

/-- The name of a property, up to a closing brace. -/
def readPropertyName : Nat → Text → Reading Text
  | 0, _ => throw .escape
  | fuel + 1, name => do
    let (c, rest) ← remainingOr .escape
    continueWith rest
    if c = '\x7d' then return name.reverse else readPropertyName fuel (c :: name)

/-- A property of characters, by a single letter or by a name in braces. -/
def readProperty (negated : Bool) : Reading Escape := do
  let (c, rest) ← remainingOr .escape
  continueWith rest
  let members? ←
    if c = '\x7b' then propertyMembers? <$> readPropertyName (rest.length + 1) []
    else if c = '\\' then throw .property
    else
      skipIgnored
      pure (Unicode.characters? [c])
  match members? with
  | none => throw .property
  | some members =>
    if (← currentFlags).unicode then return .chars (← finishClass negated members)
    else throw .notText

/-- The assertion about a word edge, by the letters in force. -/
def wordAssertion (edge : WordEdge) : Reading Escape := do
  let flags ← currentFlags
  return .assertion (.word edge (if flags.unicode then .word else .within asciiWord))

/-- Whether a character can be part of the name of a word edge. -/
def isEdgeNameChar (c : Char) : Bool := c.isAlpha || c == '-'

/-- The name of a word edge, up to a closing brace. -/
def readEdgeName : Nat → Text → Reading Text
  | 0, _ => throw .escape
  | fuel + 1, name => do
    let (c, rest) ← remainingOr .escape
    if c = '\x7d' then
      continueWith rest
      return name.reverse
    else if isEdgeNameChar c then
      continueWith rest
      readEdgeName fuel (c :: name)
    else throw .escape

/-- What follows a boundary escape: the name of an edge in braces, or nothing that belongs to it.
Braces that do not start with a name are left for a repetition count. -/
def readBoundary : Reading Escape := do
  let text ← remaining
  match text with
  | '\x7b' :: inside =>
    continueWith inside
    let (c, _) ← remainingOr .escape
    if isEdgeNameChar c then
      let name ← readEdgeName (inside.length + 1) []
      if name = "start".toList then wordAssertion .start
      else if name = "end".toList then wordAssertion .stop
      else if name = "start-half".toList then wordAssertion .startHalf
      else if name = "end-half".toList then wordAssertion .stopHalf
      else throw .escape
    else
      continueWith text
      wordAssertion .boundary
  | _ => wordAssertion .boundary

/-- What stands after a backslash. -/
def readEscape : Reading Escape := do
  match ← remaining with
  | [] => throw .escape
  | c :: rest =>
    if c.isDigit then throw .backreference
    continueWith rest
    match c with
    | 'x' => readCode 2
    | 'u' => readCode 4
    | 'U' => readCode 8
    | 'p' => readProperty false
    | 'P' => readProperty true
    | 'd' => namedClass Unicode.decimalRanges asciiDigit false
    | 'D' => namedClass Unicode.decimalRanges asciiDigit true
    | 's' => namedClass Unicode.whiteSpaceRanges asciiBlank false
    | 'S' => namedClass Unicode.whiteSpaceRanges asciiBlank true
    | 'w' => namedClass Unicode.wordRanges asciiWord false
    | 'W' => namedClass Unicode.wordRanges asciiWord true
    | 'a' => return .literal '\x07' false
    | 'f' => return .literal '\x0c' false
    | 't' => return .literal '\t' false
    | 'n' => return .literal '\n' false
    | 'r' => return .literal '\r' false
    | 'v' => return .literal '\x0b' false
    | 'A' => return .assertion .textStart
    | 'z' => return .assertion .textEnd
    | 'b' => readBoundary
    | 'B' => wordAssertion .interior
    | '<' => wordAssertion .start
    | '>' => wordAssertion .stop
    | _ =>
      if c.toNat < 128 && !c.isAlpha then return .literal c false else throw .escape

end Highlight.Pattern.Spelling
