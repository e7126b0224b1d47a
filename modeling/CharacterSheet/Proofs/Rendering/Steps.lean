import CharacterSheet.Proofs.Rendering.Leniency
import Mathlib.Logic.Relation

/-!
# The steps of a run

A run comes to its spans step by step, through arguments that are expanded inside of
arguments (`Step`). With neutral handlers all of them are under the policy of the template
(`Reaches.policy_eq`), and no span whose fault is shown is out of reach: every inline error
that a rendering reports was caused by a span that a scan found which the rendering comes
to (`Engine.exists_reached_of_inlineError`).
-/

namespace CharacterSheet

/-- How a run goes on: from a job to one that it asks for, or to what is left of it
afterwards, with the journal that the next job finds. -/
inductive Step (engine : Engine) : Job × Journal → Job × Journal → Prop
  /-- A scan gives the span that it finds. -/
  | span
      {scope template origins start text span journal counted}
      (found : Span.find text = .ok (some span))
      (within : engine.countExpansion.on journal = (.ok (), counted)) :
      Step engine (.scan scope template origins start text, journal)
        (.span scope span.inner template (origins.source (start + Text.bytes span.before)),
          counted)
  /-- A scan goes on with what is shown in place of a span. -/
  | replaced
      {scope template origins start text span spans shown journal counted between}
      (found : Span.find text = .ok (some span))
      (within : engine.countExpansion.on journal = (.ok (), counted))
      (evaluated : Run engine
        (.span scope span.inner template (origins.source (start + Text.bytes span.before)))
        counted spans (.ok shown) between) :
      Step engine (.scan scope template origins start text, journal)
        (.scan scope template
            (origins.replaced (start + Text.bytes span.before)
              (start + Text.bytes span.before + Text.bytes span.whole) (Text.bytes shown))
            (start + Text.bytes span.before) (shown ++ span.after),
          between)
  /-- A span is what its script gives. -/
  | followed {scope inner template offset journal} :
      Step engine (.span scope inner template offset, journal)
        (.script (engine.spanScript scope inner), journal)
  /-- A script asks for an expansion. -/
  | expansion {scope text next journal} :
      Step engine (.script (.expand scope text next), journal)
        (.expand scope text, journal)
  /-- A script goes on after an expansion. -/
  | expanded
      {scope text next spans answer journal between}
      (answered : Run engine (.expand scope text) journal spans answer between) :
      Step engine (.script (.expand scope text next), journal)
        (.script (next answer), between)
  /-- A script asks for a rendering. -/
  | rendering {scope text next journal} :
      Step engine (.script (.render scope text next), journal)
        (.render scope text, journal)
  /-- A script goes on after a rendering. -/
  | rendered
      {scope text next spans answer journal between}
      (answered : Run engine (.render scope text) journal spans answer between) :
      Step engine (.script (.render scope text next), journal)
        (.script (next answer), between)
  /-- A script goes on with a fresh identifier. -/
  | drawn
      {next id journal between}
      (draws : engine.draw.on journal = (.ok id, between)) :
      Step engine (.script (.draw next), journal) (.script (next id), between)
  /-- A script goes on with the token of a tooltip. -/
  | registered
      {html source next token journal between}
      (keeps : (engine.registerTooltip html source).on journal = (.ok token, between)) :
      Step engine (.script (.tooltip html source next), journal)
        (.script (next token), between)
  /-- A script goes on after a report. -/
  | reported {diagnostic next journal} :
      Step engine (.script (.report diagnostic next), journal)
        (.script next, journal.reporting diagnostic)
  /-- An expansion scans its text one level deeper. -/
  | nested {scope text journal} :
      Step engine (.expand scope text, journal)
        (.scan scope text {} 0 text, journal.deeper)
  /-- A rendering inside an expansion expands its text. -/
  | inner
      {scope text journal}
      (inside : 0 < journal.depth) :
      Step engine (.render scope text, journal) (.expand scope text, journal)
  /-- An outermost rendering expands its text. -/
  | outermost
      {scope text journal}
      (outside : journal.depth = 0) :
      Step engine (.render scope text, journal) (.expand scope text, journal.renewed)

/-- What a run comes to after any number of steps. -/
abbrev Reaches (engine : Engine) : Job × Journal → Job × Journal → Prop :=
  Relation.ReflTransGen (Step engine)

/-- With neutral handlers a step leads to a job under the same policy. -/
theorem Step.staysUnder
    {engine : Engine}
    {policy : Policy}
    {before after : Job × Journal}
    (neutral : engine.registry.Neutral)
    (step : Step engine before after)
    (stays : before.1.StaysUnder policy) :
    after.1.StaysUnder policy := by
  cases step with
  | span | replaced | nested | inner | outermost => exact stays
  | followed =>
      cases stays
      exact Engine.staysUnder_spanScript neutral _ _
  | expansion | rendering => exact stays.1
  | expanded | rendered | drawn | registered => exact stays.2 _
  | reported => exact stays.2

/-- With neutral handlers a rendering scans everything under the policy of its template. -/
theorem Reaches.policy_eq
    {engine : Engine}
    {scope inner : Scope}
    {template argument text : Text}
    {origins : Origins}
    {start : Nat}
    {journal between : Journal}
    (neutral : engine.registry.Neutral)
    (reached : Reaches engine (.render scope template, journal)
      (.scan inner argument origins start text, between)) :
    inner.policy = scope.policy := by
  have stays (last : Job × Journal)
      (reaches : Reaches engine (.render scope template, journal) last) :
      last.1.StaysUnder scope.policy := by
    induction reaches with
    | refl => rfl
    | tail _ step inductionHypothesis => exact step.staysUnder neutral inductionHypothesis
  exact stays _ reached

namespace Journal

/-- What was reported since the beginning was reported in the first part or the second. -/
theorem Continues.mem_reportedSince
    {before between after : Journal}
    {report : Diagnostic}
    (first : before.Continues between)
    (second : between.Continues after)
    (isNew : report ∈ after.reportedSince before) :
    report ∈ between.reportedSince before ∨ report ∈ after.reportedSince between := by
  have parts : after.reportedSince before =
      between.reportedSince before ++ after.reportedSince between := by
    apply List.append_cancel_left
    rw [(first.trans second).toList_append_reportedSince, ← List.append_assoc,
      first.toList_append_reportedSince, second.toList_append_reportedSince]
  rwa [parts, List.mem_append] at isNew

/-- Where no fault was shown, no inline error was reported. -/
theorem Continues.not_inlineError
    {before after : Journal}
    {report : Diagnostic}
    (continued : before.Continues after)
    (unmarked : after.marks = before.marks)
    (isNew : report ∈ after.reportedSince before) :
    report.kind ≠ .inlineError :=
  continued.marks_eq_iff.1 unmarked report isNew

end Journal

/-- The report of a fault that is shown in place of a span. -/
def Diagnostic.shown (fault : Fault) (whole : Text) : Diagnostic :=
  { kind := .inlineError
    message := fault.message
    source? := some (String.ofList whole) }

/-- The only report of showing a fault is about it. -/
theorem Engine.eq_shown_of_showFault
    {scope : Scope}
    {fault : Fault}
    {source : Text}
    {lines : Nat}
    {journal after : Journal}
    {result : Except Fault Text}
    {report : Diagnostic}
    (shown : (showFault scope fault source lines).on journal = (result, after))
    (isNew : report ∈ after.reportedSince journal) :
    report = .shown fault source := by
  rw [on_showFault] at shown
  obtain ⟨-, rfl⟩ := Prod.mk.inj shown
  simpa [Journal.reportedSince, Diagnostic.shown] using isNew

/-- A run comes from a job to a span whose fault is shown, which makes the report. -/
inductive ShowsFault (engine : Engine) (start : Job × Journal) :
    Diagnostic → Prop
  | intro
      {scope inner template offset spans fault counted after}
      (reaches : Reaches engine start (.span scope inner template offset, counted))
      (failed : Run engine (.script (engine.spanScript scope inner)) counted
        spans (.error fault) after)
      (shows : scope.policy.shows fault = true) :
      ShowsFault engine start (.shown fault (spanOpener ++ inner ++ spanCloser))

variable {engine : Engine}

theorem ShowsFault.of_step
    {before between : Job × Journal}
    {report : Diagnostic}
    (step : Step engine before between)
    (later : ShowsFault engine between report) :
    ShowsFault engine before report := by
  obtain ⟨reaches, failed, shows⟩ := later
  exact .intro (.head step reaches) failed shows

/-- Every inline error that a run with neutral handlers reports is about a span that it comes
to. -/
theorem Run.showsFault
    {job : Job}
    {journal after : Journal}
    {spans : Nat}
    {outcome : Except Fault Text}
    {report : Diagnostic}
    (neutral : engine.registry.Neutral)
    (run : Run engine job journal spans outcome after)
    (unmarked : job.Unmarked)
    (isError : report.kind = .inlineError)
    (isNew : report ∈ after.reportedSince journal) :
    ShowsFault engine (job, journal) report := by
  -- every part of a run that shows no fault itself is ruled out by its marks
  induction run with
  | @unterminated _ _ _ _ _ _ journal | @clear _ _ _ _ _ journal
  | @done _ journal | @fail _ journal =>
      exact absurd isError ((Journal.Continues.refl journal).not_inlineError rfl isNew)
  | overrun found counted =>
      have counting := (engine.extends_of_countExpansion counted).continues
      exact absurd isError
        (counting.not_inlineError (engine.marks_of_countExpansion counted) isNew)
  | stopped found within failed inductionHypothesis =>
      have counting := (engine.extends_of_countExpansion within).continues
      rcases counting.mem_reportedSince failed.continues isNew with early | later
      · exact absurd isError
          (counting.not_inlineError (engine.marks_of_countExpansion within) early)
      · exact (inductionHypothesis trivial later).of_step (.span found within)
  | replaced found within evaluated rest spanHypothesis restHypothesis =>
      have counting := (engine.extends_of_countExpansion within).continues
      rcases counting.mem_reportedSince (evaluated.continues.trans rest.continues) isNew with
        early | later
      · exact absurd isError
          (counting.not_inlineError (engine.marks_of_countExpansion within) early)
      · rcases evaluated.continues.mem_reportedSince rest.continues later with here | behind
        · exact (spanHypothesis trivial here).of_step (.span found within)
        · exact (restHypothesis trivial behind).of_step (.replaced found within evaluated)
  | evaluated followed inductionHypothesis
  | aborted followed hides inductionHypothesis =>
      have later := inductionHypothesis (Engine.unmarked_spanScript neutral _ _) isNew
      exact later.of_step .followed
  | marked followed shows shown inductionHypothesis =>
      have showing := (Engine.extends_of_showFault shown).continues
      rcases followed.continues.mem_reportedSince showing isNew with inside | own
      · have later := inductionHypothesis (Engine.unmarked_spanScript neutral _ _) inside
        exact later.of_step .followed
      · rw [Engine.eq_shown_of_showFault shown own]
        exact .intro .refl followed shows
  | expandRequest answered rest answerHypothesis restHypothesis =>
      rcases answered.continues.mem_reportedSince rest.continues isNew with inside | behind
      · exact (answerHypothesis trivial inside).of_step .expansion
      · exact (restHypothesis (unmarked.2 _) behind).of_step (.expanded answered)
  | renderRequest answered rest answerHypothesis restHypothesis =>
      rcases answered.continues.mem_reportedSince rest.continues isNew with inside | behind
      · exact (answerHypothesis trivial inside).of_step .rendering
      · exact (restHypothesis (unmarked.2 _) behind).of_step (.rendered answered)
  | drawRequest drawn rest inductionHypothesis =>
      have drawing := (engine.extends_of_draw drawn).continues
      rcases drawing.mem_reportedSince rest.continues isNew with early | later
      · exact absurd isError (drawing.not_inlineError (engine.marks_of_draw drawn) early)
      · exact (inductionHypothesis (unmarked.2 _) later).of_step (.drawn drawn)
  | tooltipRequest kept rest inductionHypothesis =>
      have keeping := (engine.extends_of_registerTooltip kept).continues
      rcases keeping.mem_reportedSince rest.continues isNew with early | later
      · exact absurd isError
          (keeping.not_inlineError (engine.marks_of_registerTooltip kept) early)
      · exact (inductionHypothesis (unmarked.2 _) later).of_step (.registered kept)
  | @reportRequest diagnostic _ _ _ journal _ rest inductionHypothesis =>
      have reporting := (Journal.Extends.reported journal diagnostic).continues
      rcases reporting.mem_reportedSince rest.continues isNew with early | later
      · exact absurd isError
          (reporting.not_inlineError (Journal.marks_reporting unmarked.1 journal) early)
      · exact (inductionHypothesis unmarked.2 later).of_step .reported
  | nested scanned inductionHypothesis =>
      exact (inductionHypothesis trivial isNew).of_step .nested
  | inner inside expanded inductionHypothesis =>
      exact (inductionHypothesis trivial isNew).of_step (.inner inside)
  | finished outermost expansion finalized inductionHypothesis =>
      have finishing := engine.continues_of_finalize finalized
      rcases expansion.continues.mem_reportedSince finishing isNew with inside | late
      · exact (inductionHypothesis trivial inside).of_step (.outermost outermost)
      · exact absurd isError
          (finishing.not_inlineError (engine.marks_of_finalize finalized) late)
  | unfinished outermost expansion inductionHypothesis =>
      exact (inductionHypothesis trivial isNew).of_step (.outermost outermost)

/-- With neutral handlers every inline error that a rendering reports was caused by a span that
a scan found which the rendering comes to: the span fails there, and its fault is shown. -/
theorem Engine.exists_reached_of_inlineError
    (engine : Engine)
    (neutral : engine.registry.Neutral)
    (scope : Scope)
    (template : Text)
    {journal : Journal}
    {report : Diagnostic}
    (isError : report.kind = .inlineError)
    (isNew : report ∈
      ((engine.render scope template).on journal).2.reportedSince journal) :
    ∃ inner argument origins start text between span counted fault,
      Reaches engine (.render scope template, journal)
        (.scan inner argument origins start text, between) ∧
      Span.find text = .ok (some span) ∧
      engine.countExpansion.on between = (.ok (), counted) ∧
      ((engine.evaluate (engine.answersBy engine.expand) inner
        span.inner).on counted).1 = .error fault ∧
      scope.policy.shows fault = true ∧
      report = .shown fault span.whole := by
  obtain ⟨spans, run⟩ : Performs engine (engine.render scope template)
      (.render scope template) journal := Performs.render scope template journal
  obtain ⟨reaches, failed, shows⟩ := run.showsFault neutral trivial isError isNew
  have result := (Performs.script_of_expand _ _).on_eq failed
  rw [← engine.evaluate_eq_run_spanScript] at result
  -- only a scan comes to a span
  rcases reaches.cases_tail with same | ⟨⟨_, between⟩, reached, last⟩
  · cases same
  · cases last with
    | span found within =>
        rw [Reaches.policy_eq neutral reached] at shows
        exact ⟨_, _, _, _, _, between, _, _, _, reached, found, within,
          congrArg Prod.fst result, shows, rfl⟩

end CharacterSheet
