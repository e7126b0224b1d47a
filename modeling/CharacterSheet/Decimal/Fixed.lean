import CharacterSheet.Decimal.Digits
import CharacterSheet.Decimal.Dyadic

/-!
# Decimal text with a fixed number of places

The text is that of the nearest number with so many places; of two equally near ones the one with
an even last digit. The sign stays also when all digits are zero.
-/

namespace CharacterSheet

namespace Fixed

/-- The whole number nearest to `numerator / denominator`, ties going to the even one. -/
def divideToEven (numerator denominator : Nat) : Nat :=
  let quotient := numerator / denominator
  let double := 2 * (numerator % denominator)
  if double < denominator then quotient
  else if denominator < double then quotient + 1
  else quotient + quotient % 2

/-- The magnitude in units of the last place. -/
def units (places : Nat) (d : Dyadic) : Nat :=
  divideToEven (d.numerator * Nat.pow 10 places) d.denominator

/-- At least `width` digits, filled up with zeros in front. -/
def padded (width : Nat) (digits : Text) : Text :=
  List.replicate (width - digits.length) '0' ++ digits

/-- The magnitude with a decimal point before its last `places` digits. -/
def pointed (places : Nat) (d : Dyadic) : Text :=
  let whole := units places d
  Digits.ofNat (whole / Nat.pow 10 places) ++ ['.'] ++
    padded places (Digits.ofNat (whole % Nat.pow 10 places))

/-- A float with `places` decimal places. -/
def text (places : Nat) (x : Float) : Text :=
  match Dyadic.ofFloat? x with
  | some d => (if d.negative then ['-'] else []) ++ pointed places d
  | none =>
    if x.isNaN then "NaN".toList else if x < 0 then "-inf".toList else "inf".toList

end Fixed

end CharacterSheet
