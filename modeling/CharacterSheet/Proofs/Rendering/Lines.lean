import CharacterSheet.Handler.Builtin
import CharacterSheet.Proofs.Rendering.Origins
import CharacterSheet.Proofs.Rendering.Steps
import Mathlib.Control.Monad.Basic
import CharacterSheet.Pattern.Linear

/-!
# Lines of failed notation

The mark of a fault shows a line. A run comes to its marks step by step, and with every
step the origins of a scan keep track of the text that this scan began with
(`Reaches.tracked`). That text is the argument, and not the template which the argument
was cut from. So the line of a span counts the newlines in front of it in its own
argument, and it is the line in the template exactly if no newline stands in front of the
argument (`Engine.shown_line_iff`).
-/

namespace CharacterSheet

namespace Job

/-- A scan whose origins know where its text stands in the text that it began with. -/
def Tracked : Job → Prop
  | .scan _ template origins start text => origins.Tracks template start text
  | _ => True

end Job

variable {engine : Engine}

/-- Every step leads to a scan that is tracked, or from one tracked scan to the next. -/
theorem Step.tracked
    {before after : Job × Journal}
    (step : Step engine before after)
    (tracked : before.1.Tracked) :
    after.1.Tracked := by
  cases step with
  | replaced found within evaluated => exact tracked.replaced (Span.eq_of_find found) _
  | nested => exact Origins.tracks_start _
  | _ => trivial

/-- All scans of a run are tracked. -/
theorem Reaches.tracked
    {before after : Job × Journal}
    (reaches : Reaches engine before after)
    (tracked : before.1.Tracked) :
    after.1.Tracked := by
  induction reaches with
  | refl => exact tracked
  | tail _ step inductionHypothesis => exact step.tracked inductionHypothesis

namespace Engine

variable (engine : Engine)

/-- A fault that is shown is replaced by its mark. -/
theorem on_replacement_of_shows
    {answers : Answers}
    {scope : Scope}
    {span : Span}
    {fault : Fault}
    {journal : Journal}
    (failed : ((engine.evaluate answers scope span.inner).on journal).1 = .error fault)
    (shows : scope.policy.shows fault = true)
    (template : Text)
    (offset : Nat) :
    ((engine.replacement answers scope span template offset).on journal).1 =
      .ok (faultMark scope fault span.whole (Origins.linesBefore template offset)) := by
  rw [on_replacement]
  rcases evaluated : (engine.evaluate answers scope span.inner).on journal with ⟨result, after⟩
  obtain rfl : result = .error fault := by rw [← failed, evaluated]
  dsimp only
  rw [if_pos shows, on_showFault]

/-- Wherever a rendering of a template comes to an argument under the policy of the
template, as it always does with neutral handlers, a failed span that still stands there as
it was written shows the line of the location with the newlines added that stand before it
in the argument. This is its line in the template exactly if no newline stands before the
argument. -/
theorem shown_line_iff
    {location : Location}
    {scope inner : Scope}
    {template argument text : Text}
    {origins : Origins}
    {start : Nat}
    {journal between : Journal}
    {span : Span}
    {fault : Fault}
    (located : scope.policy.location? = some location)
    (steady : engine.registry.Neutral ∨ inner.policy = scope.policy)
    (reached : Reaches engine (.render scope template, journal)
      (.scan inner argument origins start text, between))
    (found : Span.find text = .ok (some span))
    (written : origins.frontier ≤ start + Text.bytes span.before)
    (counted : Journal)
    (failed : ((engine.evaluate (engine.answersBy engine.expand) inner
      span.inner).on counted).1 = .error fault)
    (shows : scope.policy.shows fault = true) :
    ∃ before,
      argument = before ++ span.whole ++ span.after ∧
      ((engine.replacement (engine.answersBy engine.expand) inner span argument
          (origins.source (start + Text.bytes span.before))).on counted).1 =
        .ok (errorMark fault.message.toList span.whole inner.describe.toList
          (location.advance (before.count '\n')).text.toList) ∧
      ∀ lead trail, template = lead ++ argument ++ trail →
        template = lead ++ before ++ span.whole ++ (span.after ++ trail) ∧
          (location.advance (before.count '\n') =
              location.advance ((lead ++ before).count '\n') ↔
            '\n' ∉ lead) := by
  have same : inner.policy = scope.policy :=
    steady.elim (fun neutral => reached.policy_eq neutral) id
  rw [← same] at located shows
  have tracks : origins.Tracks argument start text := reached.tracked trivial
  obtain ⟨before, stands, source⟩ := tracks.exists_before (Span.eq_of_find found) written
  refine ⟨before, stands, ?_, fun lead trail whole => ⟨?_, ?_⟩⟩
  · rw [engine.on_replacement_of_shows failed shows, source, stands, List.append_assoc,
      Origins.linesBefore_bytes, faultMark, located]
  · rw [whole, stands]
    simp only [List.append_assoc]
  · rw [List.count_append, ← List.count_eq_zero]
    simp only [Location.advance, Location.mk.injEq, true_and]
    omega

/-- Behind an empty line a failed reference in an argument shows the first line, where the
second is its own. -/
theorem shown_line_of_argument :
    let engine : Engine :=
      { config := {}
        registry := .builtin
        rules := ⟨[]⟩
        patterns := .linear
        words := .counting 0 }
    let location : Location := ⟨"page.html", 1⟩
    let scope : Scope :=
      { character := .object [], policy := { strict := false, location? := some location } }
    let lead : Text := "\n\x7b\x7bIFTRUE:'x',".toList
    let failing : Text := "\x7b\x7bREF:nope\x7d\x7d".toList
    let mark (shown : Location) := errorMark
      "cannot resolve 'nope': no property 'nope' at ''".toList failing "context".toList
      shown.text.toList
    ((engine.render scope (lead ++ failing ++ "\x7d\x7d".toList)).on {}).1 =
        .ok ('\n' :: mark location) ∧
      mark location ≠ mark (location.advance (lead.count '\n')) := by
  intro engine location scope lead failing mark
  constructor
  · decide +kernel
  · decide +kernel

/-- An argument of two lines behind an empty one: a failed reference in its second line,
which is the third of the template, shows the second. -/
theorem shown_line_of_lines :
    let engine : Engine :=
      { config := {}
        registry := ⟨[("LOWER", .lower), ("REF", .ref)]⟩
        rules := ⟨[]⟩
        patterns := .linear
        words := .counting 0 }
    let location : Location := ⟨"page.html", 1⟩
    let scope : Scope :=
      { character := .object [], policy := { strict := false, location? := some location } }
    let lead : Text := "\n\x7b\x7bLOWER:".toList
    let argument : Text := "a\n\x7b\x7bREF:nope\x7d\x7d".toList
    let template : Text := lead ++ argument ++ "\x7d\x7d".toList
    let span : Span := ⟨"a\n".toList, "REF:nope".toList, []⟩
    ∃ before between,
      Reaches engine (.render scope template, {})
        (.scan scope argument {} 0 argument, between) ∧
      argument = before ++ span.whole ++ span.after ∧
      ((engine.replacement (engine.answersBy engine.expand) scope span argument
          (({} : Origins).source (0 + Text.bytes span.before))).on between).1 =
        .ok (errorMark (Fault.unresolved "nope" (.noProperty "nope" "")).message.toList
          span.whole "context".toList (location.advance (before.count '\n')).text.toList) ∧
      location.advance (before.count '\n') ≠
        location.advance ((lead ++ before).count '\n') := by
  intro engine location scope lead argument template span
  have foundOuter : Span.find template =
      .ok (some ⟨['\n'], "LOWER:".toList ++ argument, []⟩) := by
    decide +kernel
  have called : Operation.ofInner ("LOWER:".toList ++ argument) =
      .ok (.call "LOWER" argument) := by
    decide +kernel
  have known : engine.registry.find? "LOWER" = some .lower := by
    have key : Registry.nameKey "LOWER" = "LOWER" := by decide +kernel
    rw [Registry.find?, key]
    exact List.lookup_cons_self
  have accepted : Handler.lower.accepts (Arguments.count argument) = true := by
    decide +kernel
  have content : Argument.text scope argument = .expanded scope argument := by
    have unquoted : Quoted.literal? argument = none := by decide +kernel
    have trimmed : Text.trim argument = argument := by decide +kernel
    rw [Argument.text, unquoted, trimmed]
  obtain ⟨next, asks⟩ : ∃ next, engine.spanScript scope ("LOWER:".toList ++ argument) =
      .expand scope argument next := by
    rw [engine.spanScript_of_accepted called known accepted]
    change ∃ next, resultText <$> (Value.ofText ∘ Text.lower) <$> Argument.text scope argument =
      .expand scope argument next
    rw [content]
    exact ⟨_, rfl⟩
  have found : Span.find argument = .ok (some span) := by
    decide +kernel
  let between : Journal := { depth := 2, expansions := 1 }
  have reached : Reaches engine (.render scope template, {})
      (.scan scope argument {} 0 argument, between) := by
    refine .head (.outermost rfl) (.head .nested (.head (.span foundOuter rfl) ?_))
    refine .head .followed ?_
    rw [asks]
    exact .head .expansion (.single .nested)
  have failed : ((engine.evaluate (engine.answersBy engine.expand) scope
      span.inner).on between).1 = .error (.unresolved "nope" (.noProperty "nope" "")) := by
    decide +kernel
  obtain ⟨before, stands, shown, lines⟩ := engine.shown_line_iff rfl (.inr rfl) reached
    found
    (Nat.zero_le _) between failed rfl
  refine ⟨before, between, reached, stands, shown, fun same => ?_⟩
  obtain ⟨-, own⟩ := lines lead "\x7d\x7d".toList rfl
  exact absurd (own.1 same) (by decide)

end Engine

end CharacterSheet
