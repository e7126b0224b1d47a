import CharacterSheet.Text.Case
import CharacterSheet.Value.Printer
import CharacterSheet.Text.Blank

/-!
# Loose comparison

Conditions compare values loosely: numbers and numeric texts by amount, other texts by their lower
case, everything else by its compact text.
-/

namespace CharacterSheet

/-- The distance to the next float after one; nearer amounts count as equal. -/
def amountTolerance : Float := 2.220446049250313e-16

/-- Orders two amounts up to the tolerance. -/
def compareAmounts (x y : Float) : Ordering :=
  if (x - y).abs < amountTolerance then .eq else if x < y then .lt else .gt

/-- Orders two texts by code points. -/
def compareTexts (left right : Text) : Ordering :=
  compare (String.ofList left) (String.ofList right)

namespace Value

/-- The amount that a text with blanks around it stands for. -/
def amountText? (s : String) : Option Float := Text.number? (Text.trim s.toList)

/-- Orders two texts: by amount if both are numeric, else by their lower case. -/
def compareStrings (left right : String) : Ordering :=
  match amountText? left, amountText? right with
  | some x, some y => compareAmounts x y
  | _, _ => compareTexts (Text.lower left.toList) (Text.lower right.toList)

/-- Orders a number before or after a text: by amount if the text is numeric. -/
def compareNumberString (n : Number) (s : String) : Ordering :=
  match amountText? s with
  | some y => compareAmounts n.toFloat y
  | none => compareTexts n.text (writtenString s)

/-- The loose order of two values. -/
def compareLoosely : Value → Value → Ordering
  | .string a, .string b => compareStrings a b
  | .number a, .number b => compareAmounts a.toFloat b.toFloat
  | .boolean a, .boolean b => compare a.toNat b.toNat
  | .number a, .string b => compareNumberString a b
  | .string a, .number b => (compareNumberString b a).swap
  | a, b => compareTexts a.written b.written

/-- Whether two values are equal in the loose order. -/
def looselyEqual (a b : Value) : Bool := compareLoosely a b == .eq

/-- Whether an element equals the needle, or is a record whose key does. -/
def matchesNeedle (needle item : Value) : Bool :=
  looselyEqual item needle || ((item.field? "key").map (looselyEqual · needle)).getD false

/-- Membership: an array by its elements, an object by its keys, a text by its parts. -/
def holds : (haystack needle : Value) → Bool
  | .array items, needle => items.any (matchesNeedle needle)
  | .object fields, .string s => Fields.contains s fields
  | .object fields, needle => Fields.contains needle.compact fields
  | .string s, .string part => Text.contains (Text.lower part.toList) (Text.lower s.toList)
  | _, _ => false

end Value

end CharacterSheet
