import CharacterSheet.Pattern.Syntax

/-!
# Programs of patterns

A pattern is turned into a program for a machine with several threads: instructions that take a
character, test the place, remember it, or go on in two places of which the first is preferred. Each
instruction names the ones that follow it, so programs are built from the end.
-/

namespace CharacterSheet

/-- One instruction, with the addresses of those that follow. -/
inductive PatternStep
  | take (set : CharSet) (next : Nat)
  | test (place : PlaceTest) (next : Nat)
  | save (slot : Nat) (next : Nat)
  | fork (first second : Nat)
  | accept

/-- A program of a pattern: its steps and where it starts. -/
structure PatternProgram where
  steps : Array PatternStep
  start : Nat

namespace PatternProgram

/-- Adds a step and gives its address. -/
def add (step : PatternStep) (steps : Array PatternStep) : Nat × Array PatternStep :=
  (steps.size, steps.push step)

/-- A choice between two addresses, the first preferred if `greedy`. -/
def choice (greedy : Bool) (enter leave : Nat) : PatternStep :=
  if greedy then .fork enter leave else .fork leave enter

/-- A number of copies of a part in front of an address. -/
def copies (part : Nat → Array PatternStep → Nat × Array PatternStep) :
    (count : Nat) → (next : Nat) → Array PatternStep → Nat × Array PatternStep
  | 0, next, steps => (next, steps)
  | count + 1, next, steps =>
    let (next, steps) := part next steps
    copies part count next steps

/-- A part that may be left out, in front of an address; leaving it out goes to `exit`. -/
def optional (part : Nat → Array PatternStep → Nat × Array PatternStep) (greedy : Bool)
    (exit next : Nat) (steps : Array PatternStep) : Nat × Array PatternStep :=
  let (enter, steps) := part next steps
  add (choice greedy enter exit) steps

/-- A part once or more often, in front of an address. -/
def loop (part : Nat → Array PatternStep → Nat × Array PatternStep) (greedy : Bool) (next : Nat)
    (steps : Array PatternStep) : Nat × Array PatternStep :=
  let (again, steps) := add .accept steps
  let (enter, steps) := part again steps
  (enter, steps.setIfInBounds again (choice greedy enter next))

/-- Adds the steps of a pattern that go on at the address `next`. -/
def compile : Pattern → (next : Nat) → Array PatternStep → Nat × Array PatternStep
  | .empty, next, steps => (next, steps)
  | .one set, next, steps => add (.take set next) steps
  | .place test, next, steps => add (.test test next) steps
  | .group index _ inner, next, steps =>
    let (next, steps) := add (.save (2 * index + 1) next) steps
    let (next, steps) := compile inner next steps
    add (.save (2 * index) next) steps
  | .both first second, next, steps =>
    let (next, steps) := compile second next steps
    compile first next steps
  | .either first second, next, steps =>
    let (right, steps) := compile second next steps
    let (left, steps) := compile first next steps
    add (.fork left right) steps
  | .repeated least (some most) greedy inner, next, steps =>
    let part := compile inner
    let (next, steps) := copies (optional part greedy next) (most - least) next steps
    copies part least next steps
  | .repeated least none greedy inner, next, steps =>
    let part := compile inner
    let (enter, steps) := loop part greedy next steps
    if least = 0 then add (choice greedy enter next) steps
    else copies part (least - 1) enter steps

/-- The program of a pattern, which remembers the whole match as group 0. -/
def ofPattern (pattern : Pattern) : PatternProgram :=
  let (start, steps) := compile (.group 0 none pattern) 0 #[.accept]
  ⟨steps, start⟩

/-- How many steps a program may have. -/
def mostSteps : Nat := 327680

end PatternProgram

end CharacterSheet
