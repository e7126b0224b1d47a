import CharacterSheet.Pattern.CharSet

/-!
# Patterns

A pattern describes pieces of text: characters of a set, conditions on the place, groups whose text
is remembered, sequences, alternatives in order of preference, and repetitions.
-/

namespace CharacterSheet

/-- A condition on a place between two characters. -/
inductive PlaceTest
  | textStart
  | textEnd
  | lineStart (carriage : Bool)
  | lineEnd (carriage : Bool)
  /-- A place between a word character and another, or where they do not meet. -/
  | boundary (word : CharSet) (present : Bool)
  | wordStart (word : CharSet)
  | wordEnd (word : CharSet)
  | notAfterWord (word : CharSet)
  | notBeforeWord (word : CharSet)

namespace PlaceTest

/-- Whether there is a character and it is in the set. -/
def isIn (set : CharSet) (c? : Option Char) : Bool := c?.any set

/-- Whether a place between two characters passes. At the ends of the text there is no character on
one side. -/
def holds (before? after? : Option Char) : PlaceTest → Bool
  | .textStart => before?.isNone
  | .textEnd => after?.isNone
  | .lineStart false => before?.all (· == '\n')
  | .lineStart true =>
    before?.all fun c => c == '\n' || (c == '\r' && after? != some '\n')
  | .lineEnd false => after?.all (· == '\n')
  | .lineEnd true =>
    after?.all fun c => c == '\r' || (c == '\n' && before? != some '\r')
  | .boundary word present => (isIn word before? != isIn word after?) == present
  | .wordStart word => !isIn word before? && isIn word after?
  | .wordEnd word => isIn word before? && !isIn word after?
  | .notAfterWord word => !isIn word before?
  | .notBeforeWord word => !isIn word after?

end PlaceTest

/-- A pattern of text. -/
inductive Pattern
  /-- The empty text. -/
  | empty
  /-- One character of a set. -/
  | one (set : CharSet)
  /-- No character, at a place that passes. -/
  | place (test : PlaceTest)
  /-- A pattern whose text is remembered under a number, and under a name if it has one. -/
  | group (index : Nat) (name? : Option String) (inner : Pattern)
  | both (first second : Pattern)
  /-- The first pattern, or the second where the first fails. -/
  | either (first second : Pattern)
  /-- At least `least` and at most `most?` times, as often as possible if `greedy`. -/
  | repeated (least : Nat) (most? : Option Nat) (greedy : Bool) (inner : Pattern)

namespace Pattern

/-- The patterns one after the other. -/
def sequence : List Pattern → Pattern
  | [] => .empty
  | [only] => only
  | first :: rest => .both first (sequence rest)

/-- The patterns in order of preference. -/
def alternatives : List Pattern → Pattern
  | [] => .empty
  | [only] => only
  | first :: rest => .either first (alternatives rest)

/-- Whether the pattern matches nothing but the empty text. -/
def takesNothing : Pattern → Bool
  | .empty | .place _ => true
  | .one _ => false
  | .group _ _ inner => inner.takesNothing
  | .both first second => first.takesNothing && second.takesNothing
  | .either first second => first.takesNothing && second.takesNothing
  | .repeated _ most? _ inner => most? == some 0 || inner.takesNothing

/-- A repetition. Repeating what takes nothing adds nothing after the first time; a pattern repeated
zero times is gone, its groups with it. -/
def times (least : Nat) (most? : Option Nat) (greedy : Bool) (inner : Pattern) : Pattern :=
  let (least, most?) :=
    if inner.takesNothing then (min least 1, some (min (most?.getD 1) 1)) else (least, most?)
  if most? = some 0 then .empty
  else if least = 1 ∧ most? = some 1 then inner
  else .repeated least most? greedy inner

/-- The highest number of a group. -/
def lastGroup : Pattern → Nat
  | .empty | .place _ | .one _ => 0
  | .group index _ inner => max index inner.lastGroup
  | .both first second => max first.lastGroup second.lastGroup
  | .either first second => max first.lastGroup second.lastGroup
  | .repeated _ _ _ inner => inner.lastGroup

/-- The names of groups with their numbers. -/
def groupNames : Pattern → List (String × Nat)
  | .empty | .place _ | .one _ => []
  | .group index (some name) inner => (name, index) :: inner.groupNames
  | .group _ none inner => inner.groupNames
  | .both first second => first.groupNames ++ second.groupNames
  | .either first second => first.groupNames ++ second.groupNames
  | .repeated _ _ _ inner => inner.groupNames

/-- How many steps the pattern takes when its repetitions are written out. -/
def size : Pattern → Nat
  | .empty => 0
  | .place _ | .one _ => 1
  | .group _ _ inner => inner.size + 2
  | .both first second => first.size + second.size
  | .either first second => first.size + second.size + 1
  | .repeated least most? _ inner =>
    match most? with
    | some most => most * inner.size + (most - least)
    | none => max least 1 * inner.size + 2

end Pattern

end CharacterSheet
