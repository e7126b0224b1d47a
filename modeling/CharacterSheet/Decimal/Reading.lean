import CharacterSheet.Decimal.Digits

/-!
# Reading numbers from text

A number in text is an optional sign, digits with an optional point and an optional exponent, or
one of the words `inf`, `infinity` and `nan` in any case. Its value is the float nearest to the
decimal number; numbers beyond the range of floats become infinite.
-/

namespace CharacterSheet

/-- A decimal number as written: `digits * 10 ^ exponent`. -/
structure DecimalLiteral where
  digits : Text
  exponent : Int
  deriving DecidableEq, Repr

namespace DecimalLiteral

/-- Exponents beyond this bound cannot bring a number of a few hundred digits back into range. -/
def exponentBound : Nat := 1000000

/-- The float nearest to the decimal number. -/
def toFloat (literal : DecimalLiteral) : Float :=
  let significant := literal.digits.dropWhile (· == '0')
  if significant.isEmpty then 0.0
  else
    let leading := literal.exponent + significant.length
    if 400 < leading then 1.0 / 0.0
    else if leading < -400 then 0.0
    else
      Float.ofScientific (Digits.toNat significant) (literal.exponent < 0) literal.exponent.natAbs

/-- Reads an exponent after its letter: an optional sign and at least one digit. -/
def readExponent? (text : Text) : Option Int :=
  let (negative, digits) := match text with
    | '+' :: rest => (false, rest)
    | '-' :: rest => (true, rest)
    | _ => (false, text)
  if digits.isEmpty || !digits.all Char.isDigit then none
  else
    let size := min (Digits.toNat (digits.dropWhile (· == '0'))) exponentBound
    some (if negative then -size else size)

/-- Reads digits with an optional point and exponent; the whole text has to be used. -/
def read? (text : Text) : Option DecimalLiteral := do
  let (whole, afterWhole) := Digits.spanStart text
  let (places, afterPlaces) := match afterWhole with
    | '.' :: rest => Digits.spanStart rest
    | _ => ([], afterWhole)
  if whole.isEmpty && places.isEmpty then none
  else
    let exponent ← match afterPlaces with
      | [] => some 0
      | mark :: rest => if mark == 'e' || mark == 'E' then readExponent? rest else none
    pure ⟨whole ++ places, exponent - places.length⟩

end DecimalLiteral

namespace Text

/-- The number that a text without a sign stands for. -/
def unsignedNumber? (text : Text) : Option Float :=
  match String.ofList (text.map Char.toLower) with
  | "inf" | "infinity" => some (1.0 / 0.0)
  | "nan" => some (0.0 / 0.0)
  | _ => (DecimalLiteral.read? text).map DecimalLiteral.toFloat

/-- The number that a whole text stands for, if it is the text of a number. -/
def number? : Text → Option Float
  | '+' :: rest => unsignedNumber? rest
  | '-' :: rest => (unsignedNumber? rest).map fun x => -x
  | text => unsignedNumber? text

/-- The typographic minus sign. -/
def minusSign : Char := '\u2212'

/-- The text with typographic minus signs written as hyphens. -/
def plainMinus (text : Text) : Text := text.map fun c => if c == minusSign then '-' else c

end Text

end CharacterSheet
