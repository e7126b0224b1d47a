import CharacterSheet.Notation.Span
import CharacterSheet.Trait.Pronoun

/-!
# Operations

The inside of a span is a pronoun, one of the two keywords, or the name of a handler with its
content.
-/

namespace CharacterSheet

/-- What a span asks for. -/
inductive Operation
  | pronoun (forms : Pronoun) (keyword : Text)
  | call (handler : String) (content : Text)
  deriving DecidableEq, Repr

namespace Operation

/-- Whether a character may be part of a handler's name. -/
def isNameChar (c : Char) : Bool := c.isAlphanum || c == '_' || c == '-'

/-- The handler and its content, which the first colon parts. -/
def splitHandler? (text : Text) : Option (Text × Text) := do
  let (name, content) ← Text.cutAt? ':' text
  let name := Text.trim name
  if !name.isEmpty && name.all isNameChar then some (name, content) else none

/-- The handlers that are called by their name alone. -/
def keywords : List String := ["NAME", "BR"]

/-- Reads the inside of a span. -/
def ofInner (inner : Text) : Except Unsupported Operation :=
  let text := Text.trim inner
  match Pronoun.ofKeyword? text with
  | some forms => .ok (.pronoun forms text)
  | none =>
    let upper := String.ofList (text.map Char.toUpper)
    if keywords.contains upper then .ok (.call upper [])
    else
      match splitHandler? text with
      | some (name, content) => .ok (.call (String.ofList name) content)
      | none => .error (.noOperation (String.ofList text))

end Operation

end CharacterSheet
