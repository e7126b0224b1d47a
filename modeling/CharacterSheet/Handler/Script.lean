import CharacterSheet.Fault
import CharacterSheet.Rendering.Diagnostic
import CharacterSheet.Scope

/-!
# Handler scripts

What a handler does is written as a script: a finite program that asks the renderer for nested
expansions, identifiers and tooltips, reports events, and goes on with the answers. Each expansion
is asked for in a scope of its own, which may be under another policy. A script cannot change
anything but through these requests, so a law that every request respects holds for every handler.
A handler that calls another one is written with the script of the other in its own.
-/

namespace CharacterSheet

/-- A program of a handler with a result of type `α`. -/
inductive Script (α : Type)
  | done (result : α)
  | fail (fault : Fault)
  /-- Expands the notation in a text. -/
  | expand (scope : Scope) (text : Text) (next : Except Fault Text → Script α)
  /-- Renders a text; inside a rendering this is the same as an expansion. -/
  | render (scope : Scope) (text : Text) (next : Except Fault Text → Script α)
  /-- Draws a fresh identifier. -/
  | draw (next : String → Script α)
  /-- Keeps the markup of a tooltip aside and gets the token for it. -/
  | tooltip (html source : Text) (next : Text → Script α)
  /-- Reports an event. -/
  | report (diagnostic : Diagnostic) (next : Script α)

namespace Script

variable {α β : Type}

/-- Goes on with the result of a script. -/
def bind : Script α → (α → Script β) → Script β
  | .done result, next => next result
  | .fail fault, _ => .fail fault
  | .expand scope text step, next => .expand scope text fun answer => bind (step answer) next
  | .render scope text step, next => .render scope text fun answer => bind (step answer) next
  | .draw step, next => .draw fun id => bind (step id) next
  | .tooltip html source step, next => .tooltip html source fun token => bind (step token) next
  | .report diagnostic step, next => .report diagnostic (bind step next)

instance : Monad Script where
  pure := .done
  bind := bind

@[simp] theorem pure_bind (result : α) (next : α → Script β) :
    bind (.done result) next = next result :=
  rfl

@[simp] theorem bind_done (script : Script α) : bind script .done = script := by
  induction script with
  | done | fail => rfl
  | expand scope text step ih => simp [bind, ih]
  | render scope text step ih => simp [bind, ih]
  | draw step ih => simp [bind, ih]
  | tooltip html source step ih => simp [bind, ih]
  | report diagnostic step ih => simp [bind, ih]

/-- The script with its outcome, a failure included, as the result. -/
def outcome : Script α → Script (Except Fault α)
  | .done result => .done (.ok result)
  | .fail fault => .done (.error fault)
  | .expand scope text step => .expand scope text fun answer => outcome (step answer)
  | .render scope text step => .render scope text fun answer => outcome (step answer)
  | .draw step => .draw fun id => outcome (step id)
  | .tooltip html source step => .tooltip html source fun token => outcome (step token)
  | .report diagnostic step => .report diagnostic (outcome step)

instance : MonadExceptOf Fault Script where
  throw := .fail
  tryCatch script handle := bind script.outcome fun
    | .ok result => .done result
    | .error fault => handle fault

/-- A result or a fault as a script. -/
def ofExcept : Except Fault α → Script α
  | .ok result => .done result
  | .error fault => .fail fault

/-- Expands a text and fails if that fails. -/
def expanded (scope : Scope) (text : Text) : Script Text := .expand scope text ofExcept

/-- Renders a text and fails if that fails. -/
def rendered (scope : Scope) (text : Text) : Script Text := .render scope text ofExcept

/-- A fresh identifier. -/
def drawn : Script String := .draw .done

/-- The token of a tooltip that was kept aside. -/
def tooltipToken (html source : Text) : Script Text := .tooltip html source .done

/-- Treats unresolved references as the given result. -/
def orIfUnresolved (script : Script α) (fallback : α) : Script α :=
  bind script.outcome fun
    | .ok result => .done result
    | .error (.unresolved _ _) => .done fallback
    | .error fault => .fail fault

end Script

end CharacterSheet
