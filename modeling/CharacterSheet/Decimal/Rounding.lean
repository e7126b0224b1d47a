import CharacterSheet.Decimal.Dyadic

/-!
# Rounding floats to whole numbers

Floats round to floats (`Rounding.up`, `Rounding.down`) or to whole numbers of 64 bits, where
numbers beyond the limits stop at the limit and NaN counts as zero.
-/

namespace CharacterSheet

namespace Rounding

/-- The least whole number of 64 bits, `-2 ^ 63`. -/
def leastWord : Int := -9223372036854775808

/-- The greatest whole number of 64 bits, `2 ^ 63 - 1`. -/
def greatestWord : Int := 9223372036854775807

/-- A whole number brought within 64 bits. -/
def clampWord (n : Int) : Int := max leastWord (min n greatestWord)

theorem leastWord_le_clampWord (n : Int) : leastWord ≤ clampWord n := by
  unfold clampWord; omega

theorem clampWord_le_greatestWord (n : Int) : clampWord n ≤ greatestWord := by
  unfold clampWord leastWord greatestWord; omega

/-- Rounds a float to a whole number of 64 bits in the given way. -/
def toWordBy (whole : Dyadic → Int) (x : Float) : Int :=
  match Dyadic.ofFloat? x with
  | some d => clampWord (whole d)
  | none => if x.isNaN then 0 else if x < 0 then leastWord else greatestWord

/-- The float without its fractional part, as a whole number of 64 bits. -/
def toWord (x : Float) : Int := toWordBy Dyadic.truncate x

/-- The nearest whole number of 64 bits, a half going away from zero. -/
def nearestWord (x : Float) : Int := toWordBy Dyadic.round x

/-- The float nearest to a whole number of 64 bits. -/
def ofWord (n : Int) : Float :=
  if n < 0 then -n.natAbs.toUInt64.toFloat else n.natAbs.toUInt64.toFloat

/-- Whether the float is finite and has no fractional part. -/
def isWhole (x : Float) : Bool := ((Dyadic.ofFloat? x).map Dyadic.isWhole).getD false

/-- Rounds to a whole float; floats of `2 ^ 52` and more, infinities and NaN are left alone. -/
def toWholeBy (whole : Dyadic → Int) (x : Float) : Float :=
  match Dyadic.ofFloat? x with
  | some d => if d.exponent < 0 then ofWord (whole d) else x
  | none => x

/-- The least whole float that is not below the float. -/
def up (x : Float) : Float := toWholeBy Dyadic.ceil x

/-- The greatest whole float that is not above the float. -/
def down (x : Float) : Float := toWholeBy Dyadic.floor x

end Rounding

end CharacterSheet
