import CharacterSheet.Decimal.Digits
import CharacterSheet.Decimal.Dyadic

/-!
# The fewest decimal digits that read back

A decimal number reads back as a float when it lies in the interval of reals that round to the
float; the ends belong to it when the mantissa is even. The digits printed are the first found on
ever finer decimal grids: on each grid only the two neighbours of the float can lie in the
interval, and of two that do the nearer one is taken, the even one when they are equally near.
-/

namespace CharacterSheet

/-- A decimal magnitude `digits * 10 ^ exponent`. -/
structure DecimalDigits where
  digits : Nat
  exponent : Int
  deriving DecidableEq, Repr

namespace Shortest

/-- The float and the ends of its interval, as numerators over one common denominator. -/
structure Interval where
  low : Nat
  value : Nat
  high : Nat
  denominator : Nat
  closed : Bool

/-- The interval of a positive float. Below a power of two the neighbours are twice as dense. -/
def interval (d : Dyadic) : Interval :=
  let scale := Nat.pow 2 d.exponent.toNat
  let edge := d.mantissa == Nat.pow 2 52 && decide (-1074 < d.exponent)
  { low := (4 * d.mantissa - (if edge then 1 else 2)) * scale
    value := 4 * d.mantissa * scale
    high := (4 * d.mantissa + 2) * scale
    denominator := 4 * d.denominator
    closed := d.mantissa % 2 == 0 }

/-- Compares `digits * 10 ^ exponent` with `numerator / denominator`. -/
def compareTo (digits : Nat) (exponent : Int) (numerator denominator : Nat) : Ordering :=
  compare (digits * Nat.pow 10 exponent.toNat * denominator)
    (numerator * Nat.pow 10 (-exponent).toNat)

/-- Whether a decimal number reads back as the float of the interval. -/
def holds (i : Interval) (digits : Nat) (exponent : Int) : Bool :=
  let low := compareTo digits exponent i.low i.denominator
  let high := compareTo digits exponent i.high i.denominator
  (low == .gt || (i.closed && low == .eq)) && (high == .lt || (i.closed && high == .eq))

/-- The neighbour on the grid of `10 ^ exponent` that reads back, if one does. -/
def onGrid? (i : Interval) (exponent : Int) : Option DecimalDigits :=
  let numerator := i.value * Nat.pow 10 (-exponent).toNat
  let denominator := i.denominator * Nat.pow 10 exponent.toNat
  let below := numerator / denominator
  let double := 2 * (numerator % denominator)
  match holds i below exponent, holds i (below + 1) exponent with
  | false, false => none
  | true, false => some ⟨below, exponent⟩
  | false, true => some ⟨below + 1, exponent⟩
  | true, true =>
    if double < denominator || (double == denominator && below % 2 == 0) then
      some ⟨below, exponent⟩
    else some ⟨below + 1, exponent⟩

/-- The first hit on the grids from `exponent` down. -/
def search (i : Interval) (exponent : Int) : Nat → DecimalDigits
  | 0 => ⟨0, 0⟩
  | tries + 1 =>
    match onGrid? i exponent with
    | some found => found
    | none => search i (exponent - 1) tries

/-- The decimal exponent of the first digit, estimated from above by at most one. -/
def leadingExponent (d : Dyadic) : Int :=
  let size := d.mantissa.log2 + 1 + d.exponent
  -- `log10 2` lies between 30102 and 30103 hundred-thousandths
  if 0 ≤ size then size * 30103 / 100000 else size * 30102 / 100000

/-- Drops zeros at the end of the digits. -/
def stripped : (tries : Nat) → DecimalDigits → DecimalDigits
  | 0, found => found
  | tries + 1, found =>
    if found.digits != 0 && found.digits % 10 == 0 then
      stripped tries ⟨found.digits / 10, found.exponent + 1⟩
    else found

/-- The fewest digits that read back as the positive float. -/
def digits (d : Dyadic) : DecimalDigits :=
  stripped 20 (search (interval d) (leadingExponent d + 1) 22)

end Shortest

end CharacterSheet
