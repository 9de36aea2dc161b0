import Highlight.Pattern.Automaton.Encoding
import Highlight.Pattern.Automaton.Tally
import Highlight.Text.Basic

/-!
# Choices between texts

A choice between texts is laid out as a tree in which common beginnings are shared. The order of the
alternatives is kept: where one of them ends inside another, what follows in the list starts afresh,
so that it comes after the text that ended.
-/

namespace Highlight.Pattern.Automaton

/-- The bytes of a text. -/
def textBytes (text : Text) : List Nat := text.flatMap fun c => bytesOf c.toNat

/-- The longer texts of a list, divided at the texts that end here. A text that ends here before any
longer one comes only counts once. -/
def divide (texts : List (List Nat)) : List (List (List Nat)) :=
  let rest := texts.dropWhile List.isEmpty
  let pieces := rest.splitOnP List.isEmpty
  if texts.length = rest.length then pieces else [] :: pieces

/-- What the texts that begin with a byte have after it. -/
def tails (byte : Nat) (texts : List (List Nat)) : List (List Nat) :=
  texts.filterMap fun text => if text.head? = some byte then some text.tail else none

/-- The tree of some texts. Its depth is that of the longest one. -/
def tree : Nat → List (List Nat) → Fragment
  | 0, _, t => t
  | depth + 1, texts, t =>
    let divisions := divide texts
    let build (t : Tally) (division : List (List Nat)) : Tally :=
      let bytes := (division.filterMap List.head?).eraseDups
      let t := bytes.foldl (fun t byte =>
        let below := tails byte division
        if below.all List.isEmpty then t else tree depth below t) t
      match bytes with
      | [] => t
      | [_] => t.plain
      | bytes => t.listing bytes.length
    let t := divisions.foldl build t
    t.offering ((divisions.filter (!·.isEmpty)).length + (divisions.length - 1))

/-- A choice between texts; `backward` reads them from their ends. -/
def choiceOfTexts (backward : Bool) (texts : List Text) : Fragment := fun t =>
  let spelled := texts.map fun text =>
    if backward then (textBytes text).reverse else textBytes text
  let longest := (spelled.map List.length).foldl max 0
  { tree (longest + 1) spelled t.plain with branching := false }

end Highlight.Pattern.Automaton
