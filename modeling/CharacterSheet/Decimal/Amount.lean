import CharacterSheet.Decimal.Fixed
import CharacterSheet.Decimal.Reading
import CharacterSheet.Decimal.Rounding

/-!
# Amounts as the sheet shows them

A whole amount below `10 ^ 15` has no decimal places; any other is rounded to two places and loses
the zeros at its end. A signed amount shows `+` for zero and above and the typographic minus below.
-/

namespace CharacterSheet

namespace Amount

/-- Whether an amount is written, and stored, as a whole number. -/
def isPlainWhole (x : Float) : Bool := Rounding.isWhole x && decide (x.abs < 1000000000000000.0)

/-- Drops every `c` at the end of a text. -/
def dropEnd (c : Char) (text : Text) : Text := (text.reverse.dropWhile (· == c)).reverse

/-- The text of an amount. -/
def text (x : Float) : Text :=
  if isPlainWhole x then Digits.ofInt (Rounding.toWord x)
  else dropEnd '.' (dropEnd '0' (Fixed.text 2 x))

/-- The text of an amount with its sign. -/
def signedText (x : Float) : Text :=
  if x < 0 then Text.minusSign :: text (-x) else '+' :: text x

end Amount

end CharacterSheet
