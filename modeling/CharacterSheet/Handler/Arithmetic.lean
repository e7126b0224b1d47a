import CharacterSheet.Handler.Argument
import CharacterSheet.Notation.Expression

/-!
# Arithmetic

`MAX` and `MIN` choose among numbers. `CALC`, `ROUNDUP` and `ROUNDDOWN` evaluate an expression, in
which nested notation is expanded first and names are references.
-/

namespace CharacterSheet

namespace Handler

/-- The number that a name in an expression refers to. -/
def operandNumber (setting : Setting) (scope : Scope) (name : String) : Except Fault Float := do
  let value ← setting.resolve scope name.toList
  match value.rating? false with
  | some x => pure x
  | none => throw (.unresolved name .notNumeric)

/-- The value of the expression in a content. -/
def arithmetic (setting : Setting) (scope : Scope) (content : Text) : Script Float := do
  let source ← if hasNotation content then Script.expanded scope content else pure content
  match Expression.parse source with
  | .error cause => throw (Fault.malformed cause)
  | .ok expression =>
    expression.evaluate fun name => Script.ofExcept (operandNumber setting scope name)

/-- The greater of two numbers; NaN counts as missing. -/
def greater (x y : Float) : Float :=
  if x.isNaN then y else if y.isNaN then x else if x < y then y else x

/-- The lesser of two numbers; NaN counts as missing. -/
def lesser (x y : Float) : Float :=
  if x.isNaN then y else if y.isNaN then x else if y < x then y else x

/-- A handler that chooses among its numbers. -/
def choosing (name : String) (start : Float) (choose : Float → Float → Float) : Handler where
  name := name
  least := 1
  most? := none
  run setting scope content := do
    let numbers ← (Arguments.ofContent content).mapM (Argument.number setting scope name)
    pure (Value.ofAmount (numbers.foldl choose start))

/-- `MAX:number,...`. -/
def maximum : Handler := choosing "MAX" (-(1.0 / 0.0)) greater

/-- `MIN:number,...`. -/
def minimum : Handler := choosing "MIN" (1.0 / 0.0) lesser

/-- A handler that evaluates an expression and rounds the result. -/
def calculating (name : String) (round : Float → Float) : Handler where
  name := name
  least := 1
  most? := some 1
  run setting scope content := do
    let x ← arithmetic setting scope content
    pure (Value.ofAmount (round x))

/-- `CALC:expression`. -/
def calculation : Handler := calculating "CALC" fun x => x

/-- `ROUNDUP:expression`. -/
def roundUp : Handler := calculating "ROUNDUP" Rounding.up

/-- `ROUNDDOWN:expression`. -/
def roundDown : Handler := calculating "ROUNDDOWN" Rounding.down

end Handler

end CharacterSheet
