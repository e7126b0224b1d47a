import CharacterSheet.Handler.Basic
import CharacterSheet.Notation.Arguments
import CharacterSheet.Notation.Quoted
import CharacterSheet.Notation.Span
import CharacterSheet.Value.Comparison
import CharacterSheet.Value.Rating

/-!
# Arguments of handlers

An argument is used as text, as a value, as a number or as a condition. As a value it is a quoted
literal, nested notation, a number or a reference, whichever it looks like first.
-/

namespace CharacterSheet

namespace Argument

variable (setting : Setting) (scope : Scope)

/-- The text of an argument: of a quoted literal its inside, with nested notation expanded. -/
def text (argument : Text) : Script Text :=
  match Quoted.literal? argument with
  | some literal => Script.expanded scope literal
  | none => Script.expanded scope (Text.trim argument)

/-- The finite number that an argument writes, where a typographic minus is a sign. -/
def number? (argument : Text) : Option Number :=
  (Text.number? (Text.plainMinus argument)).bind Number.ofFloat?

/-- The value of an argument. -/
def value (argument : Text) : Script Value := do
  let argument := Text.trim argument
  match Quoted.literal? argument with
  | some literal => do
    let text ← Script.expanded scope literal
    pure (Value.ofText text)
  | none =>
    if hasNotation argument then do
      let text ← Script.expanded scope argument
      pure (Value.ofNumericText text)
    else
      match number? argument with
      | some n => pure (.number n)
      | none => Script.ofExcept (setting.resolve scope argument)

/-- The value of an argument, where a word that refers to nothing stands for itself. -/
def valueOrWord (argument : Text) : Script Value :=
  (value setting scope argument).orIfUnresolved (Value.ofText (Text.trim argument))

/-- The number of an argument. -/
def number (handler : String) (argument : Text) : Script Float := do
  let value ← value setting scope argument
  match value.rating? false with
  | some x => pure x
  | none => throw (Fault.misused handler (.notNumeric (String.ofList (Text.trim argument))))

/-- Texts that count as false: blank ones and the words for it. -/
def isFalseText (s : String) : Bool :=
  ["", "false", "null", "undefined"].contains (String.ofList (Text.trim s.toList))

/-- Whether a value holds as a condition. -/
def isTrueValue (value : Value) : Bool :=
  match value.ratingView with
  | .string s => !isFalseText s
  | value => value.isTruthy

/-- Whether an argument holds as a condition. What refers to nothing does not. -/
def condition (argument : Text) : Script Bool :=
  Script.orIfUnresolved (isTrueValue <$> value setting scope argument) false

end Argument

namespace Handler

/-- The fault of a handler that got too few arguments. -/
def tooFew (name : String) (least : Nat) (most? : Option Nat) (arguments : List Text) : Fault :=
  .misused name (.argumentCount least most? arguments.length)

end Handler

end CharacterSheet
