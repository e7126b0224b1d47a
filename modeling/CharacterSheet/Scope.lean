import CharacterSheet.Value.Basic

/-!
# Scopes and policies

A scope is what notation is evaluated in: the character, the entity that is being described, the
variables of the template, and the policy, which says what happens to failed notation. Nested
notation may be evaluated in another scope.
-/

namespace CharacterSheet

/-- A line of a template file. -/
structure Location where
  file : String
  line : Nat
  deriving DecidableEq, Repr

namespace Location

/-- The location some lines further down. -/
def advance (location : Location) (lines : Nat) : Location :=
  { location with line := location.line + lines }

/-- The file and the line. -/
def text (location : Location) : String := s!"{location.file}:{location.line}"

end Location

/-- What happens to notation that fails. -/
structure Policy where
  /-- Whether a fault stops the rendering even when it could be shown in place. -/
  strict : Bool := true
  /-- Where the text under evaluation starts. -/
  location? : Option Location := none
  deriving DecidableEq, Repr

/-- What notation is evaluated in. -/
structure Scope where
  character : Value
  entity? : Option Value := none
  vars? : Option Value := none
  policy : Policy := {}

namespace Scope

/-- The scope with an entity. -/
def withEntity (scope : Scope) (entity : Value) : Scope := { scope with entity? := some entity }

/-- The scope with variables. -/
def withVars (scope : Scope) (vars : Value) : Scope := { scope with vars? := some vars }

/-- The scope under a policy. -/
def under (policy : Policy) (scope : Scope) : Scope := { scope with policy }

/-- A short name of the scope: the key of the entity, or its name if it has no key. -/
def describe (scope : Scope) : String :=
  let label? := scope.entity?.bind fun entity =>
    ((entity.field? "key").or (entity.field? "name")).bind Value.string?
  match label? with
  | some label => s!"this={label}"
  | none => "context"

end Scope

end CharacterSheet
