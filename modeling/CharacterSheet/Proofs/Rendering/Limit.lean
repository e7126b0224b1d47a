import CharacterSheet.Handler.Builtin
import CharacterSheet.Pattern.Linear
import CharacterSheet.Proofs.Rendering.Existence

/-!
# The limit of an outermost rendering

An outermost rendering begins with a counter of zero, and all levels of nesting
share that counter. So whatever the handlers do, and also where a lenient policy
shows the fault of the limit and goes on, there is a run, and it evaluates no
more spans than the limit allows.
-/

namespace CharacterSheet

namespace Run

variable {engine : Engine}

/-- An outermost rendering evaluates at most as many spans as the limit allows. -/
theorem spans_le_of_outermost
    {scope : Scope}
    {text : Text}
    {journal after : Journal}
    {spans : Nat}
    {outcome : Except Fault Text}
    (outermost : journal.depth = 0)
    (run : Run engine (.render scope text) journal spans outcome after) :
    spans ≤ engine.config.maxExpansions := by
  cases run with
  | inner inside => omega
  | finished _ expansion | unfinished _ expansion => exact expansion.spans_le_of_expand

end Run

namespace Engine

variable (engine : Engine)

/-- An outermost rendering ends: it has exactly one run, which has its outcome and
its journal and evaluates at most as many spans as the limit allows. -/
theorem render_within_limit
    (scope : Scope)
    (text : Text)
    {journal : Journal}
    (outermost : journal.depth = 0) :
    ∃ spans outcome after,
      Run engine (.render scope text) journal spans outcome after ∧
      (engine.render scope text).on journal = (outcome, after) ∧
      spans ≤ engine.config.maxExpansions ∧
      ∀ otherSpans otherOutcome other,
        Run engine (.render scope text) journal otherSpans otherOutcome other →
        otherSpans = spans ∧ otherOutcome = outcome ∧ other = after := by
  obtain ⟨spans, run⟩ : Performs engine (engine.render scope text)
      (.render scope text) journal := Performs.render scope text journal
  refine ⟨spans, _, _, run, rfl, run.spans_le_of_outermost outermost, ?_⟩
  intro otherSpans otherOutcome other otherRun
  exact otherRun.unique run

/-- A variable that refers to itself is evaluated at most three times under a
limit of three, also by a lenient policy. -/
theorem render_within_limit_of_loop :
    let engine : Engine :=
      { config := { maxExpansions := 3 }
        registry := .builtin
        rules := ⟨[]⟩
        patterns := .linear
        words := .counting 0 }
    let scope : Scope :=
      { character := .object []
        vars? := some (.object [("loop", .string "{{REF:vars.loop}}")])
        policy := { strict := false } }
    let text : Text := "{{REF:vars.loop}}".toList
    let journal : Journal := {}
    journal.depth = 0 ∧
      ∃ spans outcome after,
        Run engine (.render scope text) journal spans outcome after ∧
        (engine.render scope text).on journal = (outcome, after) ∧
        spans ≤ 3 ∧
        ∀ otherSpans otherOutcome other,
          Run engine (.render scope text) journal otherSpans otherOutcome other →
          otherSpans = spans ∧ otherOutcome = outcome ∧ other = after :=
  ⟨rfl, render_within_limit _ _ _ rfl⟩

end Engine
end CharacterSheet
