/-!
# Binary floating-point numbers as exact fractions

A finite float is a sign, a whole mantissa and a power of two. Everything that has to be exact
(rounding to whole numbers, fixed and shortest decimal text) is computed on this form in whole
numbers.
-/

namespace CharacterSheet

/-- The number `± mantissa * 2 ^ exponent`. -/
structure Dyadic where
  negative : Bool
  mantissa : Nat
  exponent : Int
  deriving DecidableEq, Repr

namespace Dyadic

/-- The value of a finite float; infinities and NaN have none. -/
def ofFloat? (x : Float) : Option Dyadic :=
  let bits := x.toBits.toNat
  let negative := bits / Nat.pow 2 63 == 1
  let scale : Nat := bits / Nat.pow 2 52 % Nat.pow 2 11
  let fraction := bits % Nat.pow 2 52
  if scale == 2047 then none
  else if scale == 0 then some ⟨negative, fraction, -1074⟩
  else some ⟨negative, Nat.pow 2 52 + fraction, (scale : Int) - 1075⟩

/-- Upper part of the magnitude as a fraction. -/
def numerator (d : Dyadic) : Nat := d.mantissa * Nat.pow 2 d.exponent.toNat

/-- Lower part of the magnitude as a fraction, a power of two. -/
def denominator (d : Dyadic) : Nat := Nat.pow 2 (-d.exponent).toNat

theorem denominator_pos (d : Dyadic) : 0 < d.denominator := Nat.two_pow_pos _

/-- The magnitude without its fractional part. -/
def wholePart (d : Dyadic) : Nat := d.numerator / d.denominator

/-- Whether the number has no fractional part. -/
def isWhole (d : Dyadic) : Bool := d.numerator % d.denominator == 0

/-- The least whole magnitude that is not below the magnitude. -/
def wholeAbove (d : Dyadic) : Nat := (d.numerator + (d.denominator - 1)) / d.denominator

/-- The whole magnitude nearest to the magnitude, a half going up. -/
def wholeNearest (d : Dyadic) : Nat := (2 * d.numerator + d.denominator) / (2 * d.denominator)

/-- A magnitude with the sign of the number. -/
def signed (d : Dyadic) (magnitude : Nat) : Int := if d.negative then -magnitude else magnitude

/-- The greatest whole number that is not above the number. -/
def floor (d : Dyadic) : Int := d.signed (if d.negative then d.wholeAbove else d.wholePart)

/-- The least whole number that is not below the number. -/
def ceil (d : Dyadic) : Int := d.signed (if d.negative then d.wholePart else d.wholeAbove)

/-- The number without its fractional part. -/
def truncate (d : Dyadic) : Int := d.signed d.wholePart

/-- The nearest whole number, a half going away from zero. -/
def round (d : Dyadic) : Int := d.signed d.wholeNearest

end Dyadic

end CharacterSheet
