import CharacterSheet.Config
import CharacterSheet.Handler.Script
import CharacterSheet.Reference

/-!
# Handlers

A handler is a named operation of the notation, with a range of argument counts and a script for its
content. A registry finds handlers by name, in any letter case.
-/

namespace CharacterSheet

/-- What every handler can see beside its scope and its content. -/
structure Setting where
  config : Config
  rules : RuleBook

namespace Setting

/-- The value of a reference. -/
def resolve (setting : Setting) (scope : Scope) (reference : Text) : Except Fault Value :=
  Reference.resolve setting.rules scope reference

end Setting

/-- A named operation. -/
structure Handler where
  name : String
  /-- The least number of arguments. -/
  least : Nat
  /-- The greatest number of arguments, if there is one. -/
  most? : Option Nat
  run : Setting → Scope → Text → Script Value

namespace Handler

/-- Whether a handler takes that many arguments. -/
def accepts (handler : Handler) (count : Nat) : Bool :=
  decide (handler.least ≤ count) && handler.most?.all fun most => decide (count ≤ most)

end Handler

/-- Handlers by their names in capitals. -/
structure Registry where
  entries : List (String × Handler) := []

namespace Registry

/-- A name as the registry keeps it. -/
def nameKey (name : String) : String := String.ofList (name.toList.map Char.toUpper)

/-- The handler of a name. -/
def find? (registry : Registry) (name : String) : Option Handler :=
  registry.entries.lookup (nameKey name)

/-- The registry with a handler, in place of another of the same name. -/
def register (handler : Handler) (registry : Registry) : Registry :=
  let key := nameKey handler.name
  ⟨(key, handler) :: registry.entries.filter (·.1 ≠ key)⟩

/-- The registry with several handlers, later ones last. -/
def registerAll (handlers : List Handler) (registry : Registry) : Registry :=
  handlers.foldl (fun registry handler => registry.register handler) registry

/-- All names in order. -/
def names (registry : Registry) : List String :=
  (registry.entries.map Prod.fst).mergeSort fun a b => decide (a ≤ b)

end Registry

end CharacterSheet
