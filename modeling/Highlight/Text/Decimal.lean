import Highlight.Text.Basic

/-!
# Decimal numerals

Lifetimes and expiry times are written in decimal and held in 64 bits. A numeral may start with a
plus sign and with zeros; anything else that is not an ASCII digit, and any value out of range,
makes it no numeral.
-/

namespace Highlight.Text

/-- One more than the largest value a numeral can have. -/
def numeralBound : Nat := Nat.pow 2 64

/-- The value of a numeral in range. -/
def toNumeral? (text : Text) : Option Nat :=
  let digits := match text with
    | '+' :: rest => rest
    | _ => text
  if digits.isEmpty || digits.any (!·.isDigit) then none
  else
    let value := Nat.ofDigitChars 10 digits 0
    if value < numeralBound then some value else none

/-- The numeral of a value, without sign or leading zeros. -/
def ofNumeral (value : Nat) : Text := Nat.toDigits 10 value

end Highlight.Text
