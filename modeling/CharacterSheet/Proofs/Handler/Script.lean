import CharacterSheet.Handler.Script
import CharacterSheet.Proofs.Failure

/-!
# Scripts as programs

Scripts follow the laws of programs: what comes first and what comes next can be
regrouped. `Script.AsksOnly` says what a script asks for, whatever the answers to its
requests are; so `Script.Keeps` says of which kind the markup is that it asks to keep
aside.

`Script.Orderly` says more, of how a script fails. The faults of its own may be
shown, and the fault of a request is its own outcome, unless the fault is that of a
reference that stands for no value: such a fault it may treat in its own way.

`Script.Tame` says still more: no fault of its own is about the number of arguments if
there are enough of them, it never asks for a rendering, only for expansions, and it
reports nothing by itself. A script that is made of tame ones is tame.
-/

namespace CharacterSheet

namespace Script

variable {α β : Type} {kept : Text → Prop}

theorem bind_assoc
    {γ : Type}
    (script : Script α)
    (next : α → Script β)
    (last : β → Script γ) :
    (script.bind next).bind last = script.bind fun result => (next result).bind last := by
  induction script with
  | done | fail => rfl
  | expand scope text step inductionHypothesis => simp [bind, inductionHypothesis]
  | render scope text step inductionHypothesis => simp [bind, inductionHypothesis]
  | draw step inductionHypothesis => simp [bind, inductionHypothesis]
  | tooltip html source step inductionHypothesis => simp [bind, inductionHypothesis]
  | report diagnostic step inductionHypothesis => simp [bind, inductionHypothesis]

instance : LawfulMonad Script :=
  LawfulMonad.mk' Script bind_done (fun _ _ => rfl) bind_assoc

/-- What a script asks the renderer for in one step. -/
inductive Effect
  | expand (scope : Scope) (text : Text)
  | render (scope : Scope) (text : Text)
  | draw
  | tooltip (html source : Text)
  | report (diagnostic : Diagnostic)

/-- Whatever a script is answered, it asks only for what is allowed. -/
def AsksOnly (allowed : Effect → Prop) : Script α → Prop
  | .done _ => True
  | .fail _ => True
  | .expand scope text next =>
      allowed (.expand scope text) ∧ ∀ answer, AsksOnly allowed (next answer)
  | .render scope text next =>
      allowed (.render scope text) ∧ ∀ answer, AsksOnly allowed (next answer)
  | .draw next => allowed .draw ∧ ∀ id, AsksOnly allowed (next id)
  | .tooltip html source next =>
      allowed (.tooltip html source) ∧ ∀ token, AsksOnly allowed (next token)
  | .report diagnostic next => allowed (.report diagnostic) ∧ AsksOnly allowed next

namespace AsksOnly

variable {allowed : Effect → Prop} {script : Script α}

/-- A change of the result asks for nothing more. -/
theorem map
    (change : α → β)
    (asks : script.AsksOnly allowed) :
    (change <$> script).AsksOnly allowed := by
  change (script.bind fun result => .done (change result)).AsksOnly allowed
  induction script with
  | done | fail => trivial
  | expand scope text step inductionHypothesis
  | render scope text step inductionHypothesis =>
      exact ⟨asks.1, fun answer => inductionHypothesis answer (asks.2 answer)⟩
  | draw step inductionHypothesis =>
      exact ⟨asks.1, fun id => inductionHypothesis id (asks.2 id)⟩
  | tooltip html source step inductionHypothesis =>
      exact ⟨asks.1, fun token => inductionHypothesis token (asks.2 token)⟩
  | report diagnostic step inductionHypothesis => exact ⟨asks.1, inductionHypothesis asks.2⟩

/-- What is allowed may be widened. -/
theorem mono
    {wider : Effect → Prop}
    (wide : ∀ effect, allowed effect → wider effect)
    (asks : script.AsksOnly allowed) :
    script.AsksOnly wider := by
  induction script with
  | done | fail => trivial
  | expand scope text step inductionHypothesis
  | render scope text step inductionHypothesis =>
      exact ⟨wide _ asks.1, fun answer => inductionHypothesis answer (asks.2 answer)⟩
  | draw step inductionHypothesis =>
      exact ⟨wide _ asks.1, fun id => inductionHypothesis id (asks.2 id)⟩
  | tooltip html source step inductionHypothesis =>
      exact ⟨wide _ asks.1, fun token => inductionHypothesis token (asks.2 token)⟩
  | report diagnostic step inductionHypothesis =>
      exact ⟨wide _ asks.1, inductionHypothesis asks.2⟩

end AsksOnly

/-- Whatever a script asks to keep aside is markup of a kind. -/
def Keeps (kept : Text → Prop) : Script α → Prop :=
  AsksOnly fun
    | .tooltip html _ => kept html
    | _ => True

/-- What is of one kind is of any wider kind. -/
theorem Keeps.mono
    {wider : Text → Prop}
    {script : Script α}
    (wide : ∀ html, kept html → wider html)
    (keeps : script.Keeps kept) :
    script.Keeps wider := by
  refine AsksOnly.mono (fun effect allowed => ?_) keeps
  cases effect with
  | tooltip html source => exact wide html allowed
  | _ => trivial

/-- A script whose own faults may be shown, that fails with the fault of a request
unless the fault is an unresolved reference, and that keeps aside only markup of a
kind. -/
def Orderly (kept : Text → Prop) : Script α → Prop
  | .done _ => True
  | .fail fault => fault.isRecoverable = true
  | .expand _ _ next =>
      (∀ text, Orderly kept (next (.ok text))) ∧
        ∀ fault, next (.error fault) = .fail fault ∨
          fault.isUnresolved = true ∧ Orderly kept (next (.error fault))
  | .render _ _ next =>
      (∀ text, Orderly kept (next (.ok text))) ∧
        ∀ fault, next (.error fault) = .fail fault ∨
          fault.isUnresolved = true ∧ Orderly kept (next (.error fault))
  | .draw next => ∀ id, Orderly kept (next id)
  | .tooltip html _ next => kept html ∧ ∀ token, Orderly kept (next token)
  | .report _ next => Orderly kept next

namespace Orderly

theorem map
    {script : Script α}
    (change : α → β)
    (orderly : script.Orderly kept) :
    (change <$> script).Orderly kept := by
  change (script.bind fun result => .done (change result)).Orderly kept
  induction script with
  | done => trivial
  | fail fault => exact orderly
  | expand scope text step inductionHypothesis
  | render scope text step inductionHypothesis =>
      refine ⟨fun text => inductionHypothesis _ (orderly.1 text), fun fault => ?_⟩
      rcases orderly.2 fault with rethrows | ⟨unresolved, orderly⟩
      · exact .inl (congrArg (·.bind fun result => .done (change result)) rethrows)
      · exact .inr ⟨unresolved, inductionHypothesis _ orderly⟩
  | draw step inductionHypothesis =>
      exact fun id => inductionHypothesis id (orderly id)
  | tooltip html source step inductionHypothesis =>
      exact ⟨orderly.1, fun token => inductionHypothesis token (orderly.2 token)⟩
  | report diagnostic step inductionHypothesis => exact inductionHypothesis orderly

/-- An orderly script fails with the fault of a request that is no unresolved
reference. -/
theorem rethrows
    (scope : Scope)
    (text : Text)
    {next : Except Fault Text → Script α}
    {fault : Fault}
    (orderly : (Script.expand scope text next).Orderly kept)
    (resolved : fault.isUnresolved = false) :
    next (.error fault) = .fail fault := by
  rcases orderly.2 fault with rethrows | ⟨unresolved, -⟩
  · exact rethrows
  · rw [resolved] at unresolved
    cases unresolved

/-- Whatever an orderly script is answered, it keeps aside only markup of the kind. -/
theorem keeps
    {script : Script α}
    (orderly : script.Orderly kept) :
    script.Keeps kept := by
  induction script with
  | done | fail => trivial
  | expand scope text step inductionHypothesis
  | render scope text step inductionHypothesis =>
      refine ⟨trivial, ?_⟩
      rintro (fault | text)
      · rcases orderly.2 fault with rethrows | ⟨-, orderly⟩
        · rw [rethrows]
          trivial
        · exact inductionHypothesis _ orderly
      · exact inductionHypothesis _ (orderly.1 text)
  | draw step inductionHypothesis =>
      exact ⟨trivial, fun id => inductionHypothesis id (orderly id)⟩
  | tooltip html source step inductionHypothesis =>
      exact ⟨orderly.1, fun token => inductionHypothesis token (orderly.2 token)⟩
  | report diagnostic step inductionHypothesis => exact ⟨trivial, inductionHypothesis orderly⟩

end Orderly

/-- An orderly script that asks for no rendering, reports nothing and, with enough arguments,
does not come by itself to a fault about their number. -/
def Tame (enough : Bool) (kept : Text → Prop) : Script α → Prop
  | .done _ => True
  | .fail fault => fault.mayArise enough = true
  | .expand _ _ next =>
      (∀ text, Tame enough kept (next (.ok text))) ∧
        ∀ fault, next (.error fault) = .fail fault ∨
          fault.isUnresolved = true ∧ Tame enough kept (next (.error fault))
  | .render _ _ _ => False
  | .draw next => ∀ id, Tame enough kept (next id)
  | .tooltip html _ next => kept html ∧ ∀ token, Tame enough kept (next token)
  | .report _ _ => False

namespace Tame

variable {enough : Bool}

theorem pure (result : α) : Tame enough kept (Pure.pure result : Script α) := trivial

theorem throw
    {fault : Fault}
    (arises : fault.mayArise enough = true) :
    Tame enough kept (MonadExcept.throw fault : Script α) :=
  arises

theorem ofExcept
    {result : Except Fault α}
    (fails : FailsOnly (Fault.mayArise enough) result) :
    Tame enough kept (Script.ofExcept result) := by
  cases result with
  | error fault => exact fails fault rfl
  | ok result => trivial

theorem expanded (scope : Scope) (text : Text) : Tame enough kept (Script.expanded scope text) :=
  ⟨fun _ => trivial, fun _ => .inl rfl⟩

theorem bind
    {script : Script α}
    {next : α → Script β}
    (first : script.Tame enough kept)
    (second : ∀ result, (next result).Tame enough kept) :
    (script >>= next).Tame enough kept := by
  change (script.bind next).Tame enough kept
  induction script with
  | done result => exact second result
  | fail fault => exact first
  | expand scope text step inductionHypothesis =>
      refine ⟨fun text => inductionHypothesis _ (first.1 text), fun fault => ?_⟩
      rcases first.2 fault with rethrows | ⟨unresolved, tame⟩
      · exact .inl (congrArg (·.bind next) rethrows)
      · exact .inr ⟨unresolved, inductionHypothesis _ tame⟩
  | render | report => exact first.elim
  | draw step inductionHypothesis =>
      exact fun id => inductionHypothesis id (first id)
  | tooltip html source step inductionHypothesis =>
      exact ⟨first.1, fun token => inductionHypothesis token (first.2 token)⟩

theorem map
    {script : Script α}
    (change : α → β)
    (tame : script.Tame enough kept) :
    (change <$> script).Tame enough kept :=
  tame.bind fun result => pure (change result)

/-- What is of one kind is of any wider kind. -/
theorem mono
    {wider : Text → Prop}
    {script : Script α}
    (wide : ∀ html, kept html → wider html)
    (tame : script.Tame enough kept) :
    script.Tame enough wider := by
  induction script with
  | done => trivial
  | fail fault => exact tame
  | expand scope text step inductionHypothesis =>
      refine ⟨fun text => inductionHypothesis _ (tame.1 text), fun fault => ?_⟩
      rcases tame.2 fault with rethrows | ⟨unresolved, tame⟩
      · exact .inl rethrows
      · exact .inr ⟨unresolved, inductionHypothesis _ tame⟩
  | render | report => exact tame.elim
  | draw step inductionHypothesis =>
      exact fun id => inductionHypothesis id (tame id)
  | tooltip html source step inductionHypothesis =>
      exact ⟨wide html tame.1, fun token => inductionHypothesis token (tame.2 token)⟩

/-- What goes on with a result of its own for an unresolved reference is tame. -/
theorem orIfUnresolved
    {script : Script α}
    (tame : script.Tame enough kept)
    (fallback : α) :
    (script.orIfUnresolved fallback).Tame enough kept := by
  induction script with
  | done result => trivial
  | fail fault =>
      cases fault with
      | unresolved => trivial
      | _ => exact tame
  | expand scope text step inductionHypothesis =>
      refine ⟨fun text => inductionHypothesis _ (tame.1 text), fun fault => ?_⟩
      change (step (.error fault)).orIfUnresolved fallback = .fail fault ∨
        fault.isUnresolved = true ∧ ((step (.error fault)).orIfUnresolved fallback).Tame enough kept
      rcases tame.2 fault with rethrows | ⟨unresolved, tame⟩
      · rw [rethrows]
        cases fault with
        | unresolved => exact .inr ⟨rfl, trivial⟩
        | _ => exact .inl rfl
      · exact .inr ⟨unresolved, inductionHypothesis _ tame⟩
  | render | report => exact tame.elim
  | draw step inductionHypothesis =>
      exact fun id => inductionHypothesis id (tame id)
  | tooltip html source step inductionHypothesis =>
      exact ⟨tame.1, fun token => inductionHypothesis token (tame.2 token)⟩

theorem mapM
    {step : α → Script β}
    (tame : ∀ item, (step item).Tame enough kept)
    (items : List α) :
    (items.mapM step).Tame enough kept := by
  induction items with
  | nil => trivial
  | cons item items inductionHypothesis =>
      rw [List.mapM_cons]
      refine (tame item).bind fun result => ?_
      exact inductionHypothesis.bind fun results => pure (result :: results)

/-- A tame script is orderly. -/
theorem orderly
    {script : Script α}
    (tame : script.Tame enough kept) :
    script.Orderly kept := by
  induction script with
  | done => trivial
  | fail fault => exact Fault.isRecoverable_of_mayArise tame
  | expand scope text step inductionHypothesis =>
      refine ⟨fun text => inductionHypothesis _ (tame.1 text), fun fault => ?_⟩
      rcases tame.2 fault with rethrows | ⟨unresolved, tame⟩
      · exact .inl rethrows
      · exact .inr ⟨unresolved, inductionHypothesis _ tame⟩
  | render | report => exact tame.elim
  | draw step inductionHypothesis =>
      exact fun id => inductionHypothesis id (tame id)
  | tooltip html source step inductionHypothesis =>
      exact ⟨tame.1, fun token => inductionHypothesis token (tame.2 token)⟩

end Tame

end Script

end CharacterSheet
