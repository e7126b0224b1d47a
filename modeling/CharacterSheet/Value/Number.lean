import CharacterSheet.Decimal.Amount
import CharacterSheet.Decimal.Shortest

/-!
# Numbers of records

A number is a whole number of 64 bits or a finite float, and the two are kept apart: `1` and `1.0`
are different numbers with different texts.
-/

namespace CharacterSheet

/-- A number in a record: whole within 64 bits, signed or unsigned (from `-2 ^ 63` up to below
`2 ^ 64`), or a finite float. -/
inductive Number
  | integer (n : Int) (least : -9223372036854775808 ≤ n) (most : n < 18446744073709551616)
  | real (x : Float) (finite : x.isFinite = true)
  deriving DecidableEq

namespace Number

/-- The whole number `n`, if it has at most 64 bits. -/
def ofInt? (n : Int) : Option Number :=
  if h : -9223372036854775808 ≤ n ∧ n < 18446744073709551616 then some (.integer n h.1 h.2)
  else none

/-- The whole number of 64 bits nearest to `n`. -/
def ofWord (n : Int) : Number :=
  .integer (Rounding.clampWord n)
    (by have := Rounding.leastWord_le_clampWord n; unfold Rounding.leastWord at this; omega)
    (by
      have := Rounding.clampWord_le_greatestWord n
      unfold Rounding.greatestWord at this
      omega)

/-- A finite float as a number. -/
def ofFloat? (x : Float) : Option Number :=
  if h : x.isFinite = true then some (.real x h) else none

/-- The float nearest to a number. -/
def toFloat : Number → Float
  | .integer n _ _ => if n < 0 then -n.natAbs.toUInt64.toFloat else n.natAbs.toUInt64.toFloat
  | .real x _ => x

/-- Digits with a decimal point: `point` digits stand before it. At least one digit stands on each
side. -/
def positional (digits : Text) (point : Int) : Text :=
  let count : Int := digits.length
  if count ≤ point then digits ++ List.replicate (point - count).toNat '0' ++ ['.', '0']
  else if 0 < point then digits.take point.toNat ++ ['.'] ++ digits.drop point.toNat
  else ['0', '.'] ++ List.replicate (-point).toNat '0' ++ digits

/-- Digits with a point after the first of them, if there are more, and a signed exponent. -/
def scientific (digits : Text) (point : Int) : Text :=
  let exponent := point - 1
  let places := if digits.length ≤ 1 then [] else '.' :: digits.drop 1
  digits.take 1 ++ places ++ ['e', if exponent < 0 then '-' else '+'] ++
    Digits.ofNat exponent.natAbs

/-- The fewest digits that read back, positional from `0.00001` up to below `10 ^ 16`. -/
def magnitudeText (d : Dyadic) : Text :=
  if d.mantissa == 0 then ['0', '.', '0']
  else
    let found := Shortest.digits d
    let digits := Digits.ofNat found.digits
    let point := found.exponent + digits.length
    if -5 < point && point ≤ 16 then positional digits point else scientific digits point

/-- The text of a number. A float always shows a point or an exponent, and keeps its sign. -/
def text : Number → Text
  | .integer n _ _ => Digits.ofInt n
  | .real x _ =>
    match Dyadic.ofFloat? x with
    | some d => (if d.negative then ['-'] else []) ++ magnitudeText d
    | none => []

end Number

end CharacterSheet
