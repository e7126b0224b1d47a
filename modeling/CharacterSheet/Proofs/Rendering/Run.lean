import CharacterSheet.Proofs.Handler.Script
import CharacterSheet.Proofs.Rendering.Action

/-!
# Runs

A run is what a renderer does with one job, told without any fuel: a scan looks
for the next span, counts it, puts its text in place and goes on behind it; a
script asks for further jobs. A run ends with an outcome and a journal, and it
says how many spans were evaluated on the way, at all levels of nesting.

The relation is the loop as a reader would write it down. Runs are unique
(`Run.unique`), they only ever add to the journal (`Run.growth`), and no run
inside an expansion evaluates more spans than the limit leaves
(`Run.spans_le`).
-/

namespace CharacterSheet

namespace Script

variable {α β : Type}

/-- Running a script with a continuation runs the one after the other. -/
theorem run_bind
    (answers : Answers)
    (script : Script α)
    (next : α → Script β) :
    (script.bind next).run answers =
      script.run answers >>= fun result => (next result).run answers := by
  induction script with
  | done result => simp [bind, run]
  | fail fault => rfl
  | expand scope text step inductionHypothesis =>
      simp [bind, run, inductionHypothesis]
  | render scope text step inductionHypothesis =>
      simp [bind, run, inductionHypothesis]
  | draw step inductionHypothesis =>
      simp [bind, run, inductionHypothesis]
  | tooltip html source step inductionHypothesis =>
      simp [bind, run, inductionHypothesis]
  | report diagnostic step inductionHypothesis =>
      simp [bind, run, inductionHypothesis]

theorem run_map
    (answers : Answers)
    (change : α → β)
    (script : Script α) :
    (change <$> script).run answers = change <$> script.run answers := by
  change (script.bind fun result => .done (change result)).run answers = _
  rw [run_bind, map_eq_pure_bind]
  rfl

/-- One script and the next succeed when the next does from where the one ended. -/
theorem on_run_bind_eq_ok_iff
    {answers : Answers}
    {script : Script α}
    {next : α → Script β}
    {journal after : Journal}
    {result : β} :
    ((script >>= next).run answers).on journal = (.ok result, after) ↔
      ∃ middle between,
        (script.run answers).on journal = (.ok middle, between) ∧
        ((next middle).run answers).on between = (.ok result, after) := by
  change ((script.bind next).run answers).on journal = _ ↔ _
  rw [run_bind, Action.on_bind_eq_ok_iff]

end Script

namespace Engine

variable (engine : Engine)

/-- The script of a call: a handler's own, if there is one that takes the
arguments. -/
def callScript (scope : Scope) (name : String) (content : Text) : Script Text :=
  match engine.registry.find? name with
  | none => .fail (.unsupported (.unknownHandler name))
  | some handler =>
      if handler.accepts (Arguments.count content) then
        resultText <$> handler.run engine.setting scope content
      else
        .fail (.misused handler.name
          (.argumentCount handler.least handler.most? (Arguments.count content)))

/-- The script that the inside of a span stands for. -/
def spanScript (scope : Scope) (inner : Text) : Script Text :=
  match Operation.ofInner inner with
  | .error cause => .fail (.unsupported cause)
  | .ok (.pronoun forms keyword) =>
      .done (forms.word keyword
        (Sex.ofString? ((scope.character.field? "sex").bind Value.string?)))
  | .ok (.call name content) => engine.callScript scope name content

/-- What holds of a handler's script, of a result, and of a fault that may be shown,
holds of the script of a span. -/
theorem spanScript_of_handlers
    {holds : Script Text → Prop}
    {scope : Scope}
    (results : ∀ text, holds (.done text))
    (faults : ∀ fault, fault.isRecoverable = true → holds (.fail fault))
    (handlers : ∀ name handler content, engine.registry.find? name = some handler →
      holds (resultText <$> handler.run engine.setting scope content))
    (inner : Text) :
    holds (engine.spanScript scope inner) := by
  unfold spanScript
  split
  · exact faults _ rfl
  · exact results _
  · unfold callScript
    split
    · exact faults _ rfl
    · next handler found =>
        split
        · exact handlers _ handler _ found
        · exact faults _ rfl

/-- A call that a handler takes is the handler's script. -/
theorem spanScript_of_accepted
    {scope : Scope}
    {inner content : Text}
    {name : String}
    {handler : Handler}
    (called : Operation.ofInner inner = .ok (.call name content))
    (known : engine.registry.find? name = some handler)
    (accepted : handler.accepts (Arguments.count content) = true) :
    engine.spanScript scope inner =
      resultText <$> handler.run engine.setting scope content := by
  unfold spanScript callScript
  rw [called]
  dsimp only
  rw [known]
  dsimp only
  rw [if_pos accepted]

theorem dispatchWith_eq_run_callScript
    (answers : Answers)
    (scope : Scope)
    (name : String)
    (content : Text) :
    engine.dispatchWith answers scope name content =
      (engine.callScript scope name content).run answers := by
  unfold dispatchWith callScript
  cases engine.registry.find? name with
  | none => rfl
  | some handler =>
      by_cases accepted : handler.accepts (Arguments.count content) = true
      · simp only [accepted, if_true]
        rw [Script.run_map, map_eq_pure_bind]
      · simp only [accepted]
        rfl

theorem evaluate_eq_run_spanScript
    (answers : Answers)
    (scope : Scope)
    (inner : Text) :
    engine.evaluate answers scope inner =
      (engine.spanScript scope inner).run answers := by
  unfold evaluate spanScript
  cases Operation.ofInner inner with
  | error cause => rfl
  | ok operation =>
      cases operation with
      | pronoun forms keyword => rfl
      | call name content =>
          exact engine.dispatchWith_eq_run_callScript answers scope name content

end Engine

/-- What a renderer can be asked to do. -/
inductive Job
  /-- Replace the spans of a text that starts at a byte offset of the partly
  expanded template. -/
  | scan (scope : Scope) (template : Text) (origins : Origins) (start : Nat) (text : Text)
  /-- Give the text in place of a span, known by its inside, that comes from an
  offset of the template. -/
  | span (scope : Scope) (inner template : Text) (offset : Nat)
  /-- Follow a script. -/
  | script (script : Script Text)
  /-- Expand a text one level deeper. -/
  | expand (scope : Scope) (text : Text)
  /-- Render a text. -/
  | render (scope : Scope) (text : Text)

namespace Policy

/-- Whether a fault is shown in place of the notation that caused it. -/
def shows (policy : Policy) (fault : Fault) : Bool :=
  !policy.strict && fault.isRecoverable

end Policy

namespace Journal

/-- The journal with which an outermost rendering begins. -/
def renewed (journal : Journal) : Journal :=
  { journal with placeholders := journal.placeholders.clear, expansions := 0 }

/-- The journal one level deeper. -/
def deeper (journal : Journal) : Journal := { journal with depth := journal.depth + 1 }

/-- The journal one level up. -/
def shallower (journal : Journal) : Journal := { journal with depth := journal.depth - 1 }

/-- The journal after a report. -/
def reporting (diagnostic : Diagnostic) (journal : Journal) : Journal :=
  { journal with diagnostics := journal.diagnostics.push diagnostic }

end Journal

/-- The run of a job from a journal: how many spans it evaluates, its outcome
and the journal afterwards. -/
inductive Run (engine : Engine) :
    Job → Journal → Nat → Except Fault Text → Journal → Prop
  /-- A span without a closer ends a scan. -/
  | unterminated
      {scope template origins start text fault journal}
      (found : Span.find text = .error fault) :
      Run engine (.scan scope template origins start text) journal
        0 (.error fault) journal
  /-- A text without spans is its own expansion. -/
  | clear
      {scope template origins start text journal}
      (found : Span.find text = .ok none) :
      Run engine (.scan scope template origins start text) journal
        0 (.ok text) journal
  /-- A span beyond the limit is counted but not evaluated. -/
  | overrun
      {scope template origins start text span fault journal after}
      (found : Span.find text = .ok (some span))
      (counted : engine.countExpansion.on journal = (.error fault, after)) :
      Run engine (.scan scope template origins start text) journal
        0 (.error fault) after
  /-- A span whose fault is not shown ends a scan. -/
  | stopped
      {scope template origins start text span spans fault journal counted after}
      (found : Span.find text = .ok (some span))
      (within : engine.countExpansion.on journal = (.ok (), counted))
      (failed : Run engine
        (.span scope span.inner template (origins.source (start + Text.bytes span.before)))
        counted spans (.error fault) after) :
      Run engine (.scan scope template origins start text) journal
        (spans + 1) (.error fault) after
  /-- A span is replaced, and the scan goes on from where it stood. -/
  | replaced
      {scope template origins start text span spans more shown outcome}
      {journal counted between after}
      (found : Span.find text = .ok (some span))
      (within : engine.countExpansion.on journal = (.ok (), counted))
      (evaluated : Run engine
        (.span scope span.inner template (origins.source (start + Text.bytes span.before)))
        counted spans (.ok shown) between)
      (rest : Run engine
        (.scan scope template
          (origins.replaced (start + Text.bytes span.before)
            (start + Text.bytes span.before + Text.bytes span.whole) (Text.bytes shown))
          (start + Text.bytes span.before) (shown ++ span.after))
        between more outcome after) :
      Run engine (.scan scope template origins start text) journal
        (spans + 1 + more) (outcome.map (span.before ++ ·)) after
  /-- A span stands for the result of its script. -/
  | evaluated
      {scope inner template offset spans shown journal after}
      (followed : Run engine (.script (engine.spanScript scope inner))
        journal spans (.ok shown) after) :
      Run engine (.span scope inner template offset) journal
        spans (.ok shown) after
  /-- The mark of a fault stands in place of the span that caused it. -/
  | marked
      {scope inner template offset spans fault outcome journal between after}
      (followed : Run engine (.script (engine.spanScript scope inner))
        journal spans (.error fault) between)
      (shows : scope.policy.shows fault = true)
      (shown : (Engine.showFault scope fault (spanOpener ++ inner ++ spanCloser)
        (Origins.linesBefore template offset)).on between = (outcome, after)) :
      Run engine (.span scope inner template offset) journal spans outcome after
  /-- A fault that is not shown is the outcome. -/
  | aborted
      {scope inner template offset spans fault journal after}
      (followed : Run engine (.script (engine.spanScript scope inner))
        journal spans (.error fault) after)
      (hides : scope.policy.shows fault = false) :
      Run engine (.span scope inner template offset) journal
        spans (.error fault) after
  /-- A script has come to its result. -/
  | done {result journal} :
      Run engine (.script (.done result)) journal 0 (.ok result) journal
  /-- A script has failed. -/
  | fail {fault journal} :
      Run engine (.script (.fail fault)) journal 0 (.error fault) journal
  /-- A script goes on with an expansion. -/
  | expandRequest
      {scope text next spans more answer outcome journal between after}
      (answered : Run engine (.expand scope text) journal spans answer between)
      (rest : Run engine (.script (next answer)) between more outcome after) :
      Run engine (.script (.expand scope text next)) journal
        (spans + more) outcome after
  /-- A script goes on with a rendering. -/
  | renderRequest
      {scope text next spans more answer outcome journal between after}
      (answered : Run engine (.render scope text) journal spans answer between)
      (rest : Run engine (.script (next answer)) between more outcome after) :
      Run engine (.script (.render scope text next)) journal
        (spans + more) outcome after
  /-- A script goes on with a fresh identifier. -/
  | drawRequest
      {next spans id outcome journal between after}
      (drawn : engine.draw.on journal = (.ok id, between))
      (rest : Run engine (.script (next id)) between spans outcome after) :
      Run engine (.script (.draw next)) journal spans outcome after
  /-- A script goes on with the token of a tooltip. -/
  | tooltipRequest
      {html source next spans token outcome journal between after}
      (kept : (engine.registerTooltip html source).on journal = (.ok token, between))
      (rest : Run engine (.script (next token)) between spans outcome after) :
      Run engine (.script (.tooltip html source next)) journal spans outcome after
  /-- A script goes on after a report. -/
  | reportRequest
      {diagnostic next spans outcome journal after}
      (rest : Run engine (.script next) (journal.reporting diagnostic) spans outcome after) :
      Run engine (.script (.report diagnostic next)) journal spans outcome after
  /-- An expansion scans its text one level deeper. -/
  | nested
      {scope text spans outcome journal after}
      (scanned : Run engine (.scan scope text {} 0 text) journal.deeper
        spans outcome after) :
      Run engine (.expand scope text) journal spans outcome after.shallower
  /-- A rendering inside an expansion only expands. -/
  | inner
      {scope text spans outcome journal after}
      (inside : 0 < journal.depth)
      (expanded : Run engine (.expand scope text) journal spans outcome after) :
      Run engine (.render scope text) journal spans outcome after
  /-- An outermost rendering makes a document of what it expanded. -/
  | finished
      {scope text spans expanded outcome journal between after}
      (outermost : journal.depth = 0)
      (expansion : Run engine (.expand scope text) journal.renewed
        spans (.ok expanded) between)
      (finalized : (engine.finalize expanded).on between = (outcome, after)) :
      Run engine (.render scope text) journal spans outcome after
  /-- An outermost rendering fails with its expansion. -/
  | unfinished
      {scope text spans fault journal after}
      (outermost : journal.depth = 0)
      (expansion : Run engine (.expand scope text) journal.renewed
        spans (.error fault) after) :
      Run engine (.render scope text) journal spans (.error fault) after

end CharacterSheet
