import CharacterSheet.Value.Number

/-!
# Number literals

A literal without point and exponent that fits 64 bits is a whole number; every other literal is a
float, also `-0`. The float is computed from the leading digits, as many as fit an unsigned word,
scaled by a power of ten. Literals beyond the range of floats stand for no number.
-/

namespace CharacterSheet

/-- The parts of a number literal, each in order. -/
structure NumberLiteral where
  negative : Bool
  whole : Text
  places : Text
  exponent : Int
  /-- Whether a point or an exponent was written. -/
  marked : Bool
  deriving Repr

namespace NumberLiteral

/-- Reads the exponent after its letter, and the rest. -/
def readExponent? (text : Text) : Option (Int × Text) :=
  let (negative, text) := match text with
    | '+' :: rest => (false, rest)
    | '-' :: rest => (true, rest)
    | _ => (false, text)
  let (digits, rest) := Digits.spanStart text
  if digits.isEmpty then none
  else some (if negative then -Digits.toNat digits else Digits.toNat digits, rest)

/-- Reads a literal at the start of a text, and gives the rest. -/
def read? (text : Text) : Option (NumberLiteral × Text) := do
  let (negative, text) := match text with
    | '-' :: rest => (true, rest)
    | _ => (false, text)
  let (whole, text) ← match text with
    | '0' :: rest =>
      if (rest.head?.map Char.isDigit).getD false then none else some (['0'], rest)
    | _ =>
      let (digits, rest) := Digits.spanStart text
      if digits.isEmpty then none else some (digits, rest)
  let (places, pointed, text) ← match text with
    | '.' :: rest =>
      let (digits, rest) := Digits.spanStart rest
      if digits.isEmpty then none else some (digits, true, rest)
    | _ => some ([], false, text)
  match text with
  | mark :: rest =>
    if mark == 'e' || mark == 'E' then
      let (exponent, rest) ← readExponent? rest
      pure (⟨negative, whole, places, exponent, true⟩, rest)
    else pure (⟨negative, whole, places, 0, pointed⟩, text)
  | [] => pure (⟨negative, whole, places, 0, pointed⟩, text)

/-- Appends digits to a word while it fits 64 bits, and gives the digits that were left over. -/
def fill (word : Nat) : Text → Nat × Text
  | [] => (word, [])
  | c :: digits =>
    let next := 10 * word + Digits.value c
    if next < Nat.pow 2 64 then fill next digits else (word, c :: digits)

/-- A power of ten as a float. -/
def tenTo (n : Nat) : Float := Float.ofScientific 1 false n

/-- Divides by `10 ^ places`, in steps when the power itself is out of range. -/
def shrink (x : Float) (places : Nat) : (steps : Nat) → Float
  | 0 => 0.0
  | steps + 1 =>
    if places ≤ 308 then x / tenTo places else shrink (x / tenTo 308) (places - 308) steps

/-- Scales a word by a power of ten, unless it leaves the range of floats. -/
def scale? (word : Nat) (exponent : Int) : Option Float :=
  let x := word.toUInt64.toFloat
  if word == 0 then some x
  else if exponent < 0 then some (shrink x exponent.natAbs 4)
  else if 308 < exponent then none
  else
    let scaled := x * tenTo exponent.natAbs
    if scaled.isFinite then some scaled else none

/-- The float that a literal stands for. -/
def toFloat? (literal : NumberLiteral) : Option Float :=
  let (word, dropped) := fill 0 literal.whole
  let (word, left) := fill word literal.places
  let used : Nat := literal.places.length - left.length
  let exponent := (dropped.length : Int) - used + literal.exponent
  (scale? word exponent).map fun x => if literal.negative then -x else x

/-- The number that a literal stands for. -/
def toNumber? (literal : NumberLiteral) : Option Number :=
  let n := Digits.toNat literal.whole
  let whole? := if literal.marked || (literal.negative && n == 0) then none
    else Number.ofInt? (if literal.negative then -n else n)
  match whole? with
  | some number => some number
  | none => literal.toFloat?.bind Number.ofFloat?

end NumberLiteral

end CharacterSheet
