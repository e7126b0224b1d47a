import CharacterSheet.Proofs.Handler.Neutral
import CharacterSheet.Proofs.Rendering.Run

/-!
# Jobs under one policy

With neutral handlers a rendering stays under the policy it began with: the script of a span asks
for nothing under another one (`Engine.staysUnder_spanScript`), and under another policy it is the
same script (`Engine.spanScript_under`).
-/

namespace CharacterSheet

namespace Job

/-- The job with everything in it under a policy. -/
def under (policy : Policy) : Job → Job
  | .scan scope template origins start text =>
      .scan (scope.under policy) template origins start text
  | .span scope inner template offset => .span (scope.under policy) inner template offset
  | .script steps => .script (steps.under policy)
  | .expand scope text => .expand (scope.under policy) text
  | .render scope text => .render (scope.under policy) text

/-- Whether everything in a job is under a policy. -/
def StaysUnder (policy : Policy) : Job → Prop
  | .scan scope _ _ _ _ => scope.policy = policy
  | .span scope _ _ _ => scope.policy = policy
  | .script steps => steps.StaysUnder policy
  | .expand scope _ => scope.policy = policy
  | .render scope _ => scope.policy = policy

/-- Whether no script in a job reports by itself that a fault is shown. -/
def Unmarked : Job → Prop
  | .script steps => steps.Unmarked
  | _ => True

end Job

namespace Engine

variable {engine : Engine}

/-- Neutral handlers have the same script for a span under every policy. -/
theorem spanScript_under
    (neutral : engine.registry.Neutral)
    (policy : Policy)
    (scope : Scope)
    (inner : Text) :
    (engine.spanScript scope inner).under policy =
      engine.spanScript (scope.under policy) inner := by
  have calls (name : String) (content : Text) :
      (engine.callScript scope name content).under policy =
        engine.callScript (scope.under policy) name content := by
    unfold callScript
    cases found : engine.registry.find? name with
    | none => rfl
    | some handler =>
        have ignores := (Registry.holds_of_find? neutral found).ignores
        dsimp only
        split
        · rw [Script.under_map, ignores]
        · rfl
  unfold spanScript
  cases Operation.ofInner inner with
  | error cause => rfl
  | ok operation =>
      cases operation with
      | pronoun forms keyword => rfl
      | call name content => exact calls name content

/-- With neutral handlers a call asks for nothing under another policy than its own. -/
theorem staysUnder_callScript
    (neutral : engine.registry.Neutral)
    (scope : Scope)
    (name : String)
    (content : Text) :
    (engine.callScript scope name content).StaysUnder scope.policy := by
  unfold callScript
  cases found : engine.registry.find? name with
  | none => trivial
  | some handler =>
      dsimp only
      split
      · have handlers := Registry.holds_of_find? neutral found
        exact Script.AsksOnly.map _ (handlers.staysUnder engine.setting scope content)
      · trivial

/-- With neutral handlers a span asks for nothing under another policy than its own. -/
theorem staysUnder_spanScript
    (neutral : engine.registry.Neutral)
    (scope : Scope)
    (inner : Text) :
    (engine.spanScript scope inner).StaysUnder scope.policy :=
  engine.spanScript_of_handlers (fun _ => trivial) (fun _ _ => trivial)
    (fun _ _ content found => Script.AsksOnly.map _
      ((Registry.holds_of_find? neutral found).staysUnder engine.setting scope content)) inner

/-- With neutral handlers a span does not report by itself that a fault is shown. -/
theorem unmarked_spanScript
    (neutral : engine.registry.Neutral)
    (scope : Scope)
    (inner : Text) :
    (engine.spanScript scope inner).Unmarked :=
  engine.spanScript_of_handlers (fun _ => trivial) (fun _ _ => trivial)
    (fun _ _ content found => Script.AsksOnly.map _
      ((Registry.holds_of_find? neutral found).unmarked engine.setting scope content)) inner

end Engine

end CharacterSheet
