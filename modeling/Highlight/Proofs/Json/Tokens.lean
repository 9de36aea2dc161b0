import Highlight.Proofs.Json.Lexemes

/-!
# Tokens of JSON

The tokens of a JSON text are its lexemes, each with its category, if the search for keys goes wrong
nowhere; and in every other text they are not (`tokenize_eq_lexemes_iff`). Where it goes wrong, a
token starts with the closing quote of a value, and so inside a lexeme; an array of two strings is
enough for that (`colonArray`).
-/

namespace Highlight.Json

open Pattern

/-- The source of a JSON text. -/
def Document.code (document : Document) : Text := reading.code document.pieces

/-- The lexemes of a JSON text: its keys, other strings, literal names, numbers and structural
characters, in their places and with their categories. -/
def Document.lexemes (document : Document) : List Classified :=
  reading.classified 0 document.pieces

theorem json_rules : Grammar.json.rules =
    [keyRule, stringRule, literalRule, numberRule, punctuationRule] := rfl

variable {document : Document}

/-- In a clear text each rule reads what is its own. -/
theorem isReadBy_rules {pieces : List Piece} (ordered : Ordered pieces)
    (clear : isClear pieces = true) : reading.IsReadBy pieces [] Grammar.json.rules := by
  rw [json_rules]
  exact ⟨(keyRule_reads ordered clear).readsGaps, by decide,
    (stringRule_reads pieces).readsGaps, by decide,
    (literalRule_reads ordered).readsGaps, by decide,
    (numberRule_reads ordered).readsGaps, by decide,
    (punctuationRule_reads pieces).readsGaps, by decide, trivial⟩

/-- **In a clear text** the tokens are the lexemes. -/
theorem tokenize_eq_lexemes (clear : isClear document.pieces = true) :
    (Grammar.json.tokenize document.code).tokens.map Token.classified = document.lexemes := by
  refine reading.tokenize_eq (isReadBy_rules document.ordered clear) ?_
  intro piece _ kind given
  rw [json_rules]
  cases piece with
  | blank _ => cases given
  | mark _ => cases given; exact ⟨punctuationRule, by simp, rfl⟩
  | key _ => cases given; exact ⟨keyRule, by simp, rfl⟩
  | string _ => cases given; exact ⟨stringRule, by simp, rfl⟩
  | word _ => cases given; exact ⟨literalRule, by simp, rfl⟩
  | number _ => cases given; exact ⟨numberRule, by simp, rfl⟩

/-- **In a text that is not clear** some token starts inside a lexeme. -/
theorem tokenize_ne_lexemes (h : isClear document.pieces = false) :
    (Grammar.json.tokenize document.code).tokens.map Token.classified ≠ document.lexemes := by
  intro same
  obtain ⟨span, found, before, glyphs, after, split, start⟩ :=
    exists_stray [] document.ordered h
  obtain ⟨token, mem, rfl⟩ := Grammar.exists_token_of_findsAt json_rules found
  have lexeme : token.classified ∈ reading.classified 0 (before ++ .string glyphs :: after) := by
    rw [← split]
    exact (congrArg (token.classified ∈ ·) same).mp (List.mem_map_of_mem mem)
  have size :
      (reading.text (.string glyphs)).byteSize = Text.byteSize ('"' :: body glyphs) + 1 := by
    have text : reading.text (.string glyphs) = '"' :: body glyphs ++ ['"'] := rfl
    rw [text, Text.byteSize_append]
    rfl
  have inside : token.classified.start =
      (reading.code before).byteSize + Text.byteSize ('"' :: body glyphs) := by
    rw [← Text.byteSize_append]
    exact start
  have pos : 0 < Text.byteSize ('"' :: body glyphs) := Text.byteSize_pos (List.cons_ne_nil _ _)
  rcases reading.start_of_mem_classified lexeme with early | late <;> omega

/-- **The tokens of a JSON text are its lexemes**, one for one and with their categories, if and
only if the search for keys nowhere reads as a key what lies between a value and the next string:
it does wherever a string that is no key is followed by a string on the same line that starts, apart
from blanks, with a colon. -/
theorem tokenize_eq_lexemes_iff (document : Document) :
    (Grammar.json.tokenize document.code).tokens.map Token.classified = document.lexemes ↔
      isClear document.pieces = true := by
  constructor
  · intro same
    cases clear : isClear document.pieces with
    | true => rfl
    | false => exact absurd same (tokenize_ne_lexemes clear)
  · exact tokenize_eq_lexemes

/-- An array of two strings, of which the second is a colon. -/
def colonArray : Document :=
  .element [] (.array (.moreElements (.element [] (.string [.plain ⟨'a', by decide⟩]) [])
    (.oneElement (.element [] (.string [.plain ⟨':', by decide⟩]) [])))) []

/-- The comma between the two strings is taken for a key, with the quotes around it, and neither
string is a token. -/
theorem colonArray_tokens :
    colonArray.code = "[\"a\",\":\"]".toList ∧
      (Grammar.json.tokenize colonArray.code).tokens.map Token.classified =
        [⟨0, "[".toList, .operator⟩, ⟨3, "\",\"".toList, .property⟩, ⟨6, ":".toList, .operator⟩,
          ⟨8, "]".toList, .operator⟩] ∧
      colonArray.lexemes = [⟨0, "[".toList, .operator⟩, ⟨1, "\"a\"".toList, .string⟩,
        ⟨4, ",".toList, .operator⟩, ⟨5, "\":\"".toList, .string⟩, ⟨8, "]".toList, .operator⟩] ∧
      (Grammar.json.tokenize colonArray.code).tokens.map Token.classified ≠
        colonArray.lexemes := by
  refine ⟨by decide, ?_, by decide, tokenize_ne_lexemes (by decide)⟩
  decide +kernel

end Highlight.Json
