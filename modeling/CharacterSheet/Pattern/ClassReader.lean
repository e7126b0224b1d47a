import CharacterSheet.Pattern.Reader

/-!
# Reading classes

A class in brackets is a union of characters, ranges, escapes, named classes and nested classes.
Between unions may stand the operators for intersection, difference and symmetric difference, which
group to the left.
-/

namespace CharacterSheet

namespace PatternReader

/-- An operator between unions, with what is to its left. -/
abbrev PendingSet := Option (CharSet × (CharSet → CharSet → CharSet))

/-- Joins a union with what is pending on its left. Letter case is settled before. -/
def settle (pending : PendingSet) (set : CharSet) : PatternReader CharSet :=
  match pending with
  | none => pure set
  | some (left, operator) => do
    let left ← meant false left
    let right ← meant false set
    pure (operator left right)

/-- One part of a class: a character, which may begin a range, or a set. -/
def classPart : PatternReader Escape := do
  let c ← next
  if c == '\\' then
    match ← escape with
    | .place _ => refuse
    | part => pure part
  else pure (.literal c)

/-- A character that may stand in a class under the flags. -/
def member (c : Char) : PatternReader CharSet := do
  let reading ← get
  require (reading.flags.unicode || c.toNat < 128)
  pure (CharSet.single c)

/-- The character after the next one, across spacing. -/
def peekSecond? : PatternReader (Option Char) := do
  let reading ← get
  let rest := reading.rest.drop 1
  pure (if reading.flags.spacing then afterSpacing false rest else rest).head?

/-- Reads a part of a class, or a range. -/
def classItem : PatternReader CharSet := do
  let part ← classPart
  skipSpacing
  let next? ← peek?
  require next?.isSome
  let second? ← peekSecond?
  if next? == some '-' && second? != some ']' && second? != some '-' then
    let _ ← next
    skipSpacing
    match part, ← classPart with
    | .literal first, .literal last => do
      require (first ≤ last)
      let _ ← member first
      let _ ← member last
      pure (CharSet.range first last)
    | _, _ => refuse
  else
    match part with
    | .literal c => member c
    | .set set => pure set
    | .place _ => refuse

/-- A named class such as `[:alpha:]` at the start of a text, and the text after it. -/
def namedClass? (text : Text) : Option ((Bool × CharSet) × Text) := do
  let inner ← Text.after? ['[', ':'] text
  let (negated, inner) := match inner with
    | '^' :: inner => (true, inner)
    | inner => (false, inner)
  let (name, rest) ← Text.cutAt? ':' inner
  let rest ← Text.after? [']'] rest
  let set ← CharSet.asciiClass? (String.ofList name)
  pure ((negated, set), rest)

/-- Reads the hyphens at the start of a class, which stand for themselves. -/
def openingHyphens (fuel : Nat) : PatternReader Bool := do
  let hyphens ← takeWhile (· == '-') fuel
  pure !hyphens.isEmpty

/-- Reads what stands in front of the parts of a class: a negation, hyphens, and a bracket that
closes nothing because it comes first. -/
def classStart : PatternReader (Bool × CharSet) := do
  skipSpacing
  let negated ← consume "^"
  skipSpacing
  let fuel ← fuel
  let hyphens ← openingHyphens fuel
  if hyphens then pure (negated, CharSet.single '-')
  else if ← consume "]" then pure (negated, CharSet.single ']')
  else pure (negated, CharSet.nothing)

/-- Reads the parts of a class up to its closing bracket. -/
def classBody : (fuel : Nat) → PendingSet → (sofar : CharSet) → PatternReader CharSet
  | 0, _, _ => refuse
  | fuel + 1, pending, sofar => do
    skipSpacing
    let reading ← get
    match reading.rest with
    | [] => refuse
    | '[' :: rest =>
      match namedClass? reading.rest with
      | some ((negated, named), rest) => do
        set { reading with rest }
        let named ← meant negated named
        classBody fuel pending (CharSet.union sofar named)
      | none => do
        set { reading with rest }
        let (negated, start) ← classStart
        let inner ← classBody fuel none start
        let inner ← meant negated inner
        classBody fuel pending (CharSet.union sofar inner)
    | ']' :: rest => do
      set { reading with rest }
      settle pending sofar
    | '&' :: '&' :: rest => do
      set { reading with rest }
      let left ← settle pending sofar
      classBody fuel (some (left, CharSet.inter)) CharSet.nothing
    | '-' :: '-' :: rest => do
      set { reading with rest }
      let left ← settle pending sofar
      classBody fuel (some (left, CharSet.diff)) CharSet.nothing
    | '\x7e' :: '\x7e' :: rest => do
      set { reading with rest }
      let left ← settle pending sofar
      classBody fuel (some (left, CharSet.symmDiff)) CharSet.nothing
    | _ => do
      let item ← classItem
      classBody fuel pending (CharSet.union sofar item)

/-- Reads a class after its opening bracket. -/
def bracketed : PatternReader CharSet := do
  let (negated, start) ← classStart
  let fuel ← fuel
  let set ← classBody fuel none start
  meant negated set

end PatternReader

end CharacterSheet
