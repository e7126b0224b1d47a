import CharacterSheet.Pattern.Linear
import CharacterSheet.Proofs.Notation.Unclosed
import CharacterSheet.Proofs.Rendering.Failures

/-!
# Rendering unclosed texts

A scan replaces the spans in front of an opener without a closer one by one, and
looks through each replacement together with the text behind it. As no text in
front closes an unclosed one, the text that is left to scan stays unclosed
(`Run.fails_of_unclosed`), whatever the replacements were. So an unclosed text is
never rendered (`Engine.render_of_unclosed`).
-/

namespace CharacterSheet

namespace Run

variable {engine : Engine}

/-- A scan of an unclosed text fails, whatever is put in place of its spans. -/
theorem fails_of_unclosed
    {scope : Scope}
    {template : Text}
    {origins : Origins}
    {start : Nat}
    {text : Text}
    {journal after : Journal}
    {spans : Nat}
    {outcome : Except Fault Text}
    (unclosed : Span.Unclosed text)
    (run : Run engine (.scan scope template origins start text)
      journal spans outcome after) :
    ∃ fault, outcome = .error fault := by
  generalize sameJob : Job.scan scope template origins start text = job at run
  induction run generalizing scope template origins start text with
  | unterminated => exact ⟨_, rfl⟩
  | clear found =>
      cases sameJob
      cases unclosed with
      | here failed => cases failed.symm.trans found
      | behind other _ => cases other.symm.trans found
  | overrun => exact ⟨_, rfl⟩
  | stopped => exact ⟨_, rfl⟩
  | @replaced _ _ _ _ _ span _ _ shown _ _ _ _ _ found _ _ _ _ restHypothesis =>
      cases sameJob
      have left : Span.Unclosed (shown ++ span.after) :=
        (unclosed.after found).append_left shown
      obtain ⟨fault, rfl⟩ := restHypothesis left rfl
      exact ⟨fault, rfl⟩
  | _ => cases sameJob

/-- An expansion of an unclosed text fails. -/
theorem fails_of_unclosed_of_expand
    {scope : Scope}
    {text : Text}
    {journal after : Journal}
    {spans : Nat}
    {outcome : Except Fault Text}
    (unclosed : Span.Unclosed text)
    (run : Run engine (.expand scope text) journal spans outcome after) :
    ∃ fault, outcome = .error fault := by
  cases run with
  | nested scanned => exact scanned.fails_of_unclosed unclosed

end Run

namespace Engine

variable (engine : Engine)

/-- An unclosed text is never rendered, whatever takes the place of the spans in front
of the opener that has no closer. A lenient rendering with the built-in handlers fails
with an opener that has no closer, or with the limit. -/
theorem render_of_unclosed
    {text : Text}
    (unclosed : Span.Unclosed text)
    (scope : Scope)
    (journal : Journal) :
    ∃ fault,
      ((engine.render scope text).on journal).1 = .error fault ∧
      (scope.policy.strict = false → engine.registry = .builtin → engine.Escapes fault) := by
  obtain ⟨spans, run⟩ : Performs engine (engine.render scope text)
      (.render scope text) journal := Performs.render scope text journal
  generalize outcome_eq : ((engine.render scope text).on journal).1 = outcome at run
  cases run with
  | inner inside expanded =>
      obtain ⟨fault, rfl⟩ := expanded.fails_of_unclosed_of_expand unclosed
      exact ⟨fault, rfl, fun lenient builtin => expanded.escapes_of_expand builtin lenient⟩
  | unfinished outermost expansion =>
      exact ⟨_, rfl, fun lenient builtin => expansion.escapes_of_expand builtin lenient⟩
  | finished outermost expansion =>
      obtain ⟨fault, failed⟩ := expansion.fails_of_unclosed_of_expand unclosed
      cases failed

/-- A brace that comes from the data makes a line break of the text behind it, and the
opener at the end still has no closer. -/
theorem render_of_unclosed_of_brace :
    let engine : Engine :=
      { config := {}
        registry := .builtin
        rules := ⟨[]⟩
        patterns := .linear
        words := .counting 0 }
    let scope : Scope :=
      { character := .object []
        vars? := some (.object [("brace", .string "\x7b")])
        policy := { strict := false } }
    let text : Text :=
      "\x7b\x7bREF:vars.brace\x7d\x7d\x7bBR\x7d\x7d \x7b\x7bNAME".toList
    Span.Unclosed text ∧
      ∃ fault,
        ((engine.render scope text).on {}).1 = .error fault ∧
        engine.Escapes fault := by
  intro engine scope text
  have unclosed : Span.Unclosed text := by decide
  obtain ⟨fault, failed, escapes⟩ := engine.render_of_unclosed unclosed scope {}
  exact ⟨unclosed, fault, failed, escapes rfl rfl⟩

end Engine
end CharacterSheet
