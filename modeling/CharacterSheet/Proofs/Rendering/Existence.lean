import CharacterSheet.Proofs.Notation.Span
import CharacterSheet.Proofs.Rendering.Growth

/-!
# Every job has exactly one run

The renderer follows its runs: whatever it is asked to do, there is a run with
the outcome and the journal that it gives, and no other run. So the fuel of
`Engine.unfold` never shows. It is what the limit leaves of the counter, and
since the counter only goes up, a scan comes to the limit before its fuel ends.
-/

namespace CharacterSheet

namespace Run

variable {engine : Engine}

/-- A job has one run from a journal. -/
theorem unique
    {job : Job}
    {journal after other : Journal}
    {spans otherSpans : Nat}
    {outcome otherOutcome : Except Fault Text}
    (run : Run engine job journal spans outcome after)
    (second : Run engine job journal otherSpans otherOutcome other) :
    spans = otherSpans ∧ outcome = otherOutcome ∧ after = other := by
  induction run generalizing otherSpans otherOutcome other with
  | unterminated found | clear found | overrun found counted => cases second <;> simp_all
  | stopped found within failed inductionHypothesis =>
      cases second with
      | unterminated found' | clear found' | overrun found' within' => simp_all
      | stopped found' within' failed' =>
          cases found.symm.trans found'
          cases within.symm.trans within'
          obtain ⟨rfl, same, rfl⟩ := inductionHypothesis failed'
          exact ⟨rfl, same, rfl⟩
      | replaced found' within' evaluated' rest' =>
          cases found.symm.trans found'
          cases within.symm.trans within'
          obtain ⟨-, different, -⟩ := inductionHypothesis evaluated'
          cases different
  | replaced found within evaluated rest spanHypothesis restHypothesis =>
      cases second with
      | unterminated found' | clear found' | overrun found' within' => simp_all
      | stopped found' within' failed' =>
          cases found.symm.trans found'
          cases within.symm.trans within'
          obtain ⟨-, different, -⟩ := spanHypothesis failed'
          cases different
      | replaced found' within' evaluated' rest' =>
          cases found.symm.trans found'
          cases within.symm.trans within'
          obtain ⟨rfl, same, rfl⟩ := spanHypothesis evaluated'
          cases same
          obtain ⟨rfl, rfl, rfl⟩ := restHypothesis rest'
          exact ⟨rfl, rfl, rfl⟩
  | evaluated followed inductionHypothesis
  | marked followed shows shown inductionHypothesis
  | aborted followed hides inductionHypothesis =>
      cases second with
      | evaluated followed' | marked followed' shows' shown' | aborted followed' hides' =>
          have same := inductionHypothesis followed'
          simp_all
  | done | fail => cases second; exact ⟨rfl, rfl, rfl⟩
  | expandRequest answered rest answerHypothesis restHypothesis =>
      cases second with
      | expandRequest answered' rest' =>
          obtain ⟨rfl, rfl, rfl⟩ := answerHypothesis answered'
          obtain ⟨rfl, rfl, rfl⟩ := restHypothesis rest'
          exact ⟨rfl, rfl, rfl⟩
  | renderRequest answered rest answerHypothesis restHypothesis =>
      cases second with
      | renderRequest answered' rest' =>
          obtain ⟨rfl, rfl, rfl⟩ := answerHypothesis answered'
          obtain ⟨rfl, rfl, rfl⟩ := restHypothesis rest'
          exact ⟨rfl, rfl, rfl⟩
  | drawRequest drawn rest inductionHypothesis =>
      cases second with
      | drawRequest drawn' rest' =>
          cases drawn.symm.trans drawn'
          exact inductionHypothesis rest'
  | tooltipRequest kept rest inductionHypothesis =>
      cases second with
      | tooltipRequest kept' rest' =>
          cases kept.symm.trans kept'
          exact inductionHypothesis rest'
  | reportRequest rest inductionHypothesis =>
      cases second with
      | reportRequest rest' => exact inductionHypothesis rest'
  | nested scanned inductionHypothesis =>
      cases second with
      | nested scanned' =>
          obtain ⟨rfl, rfl, rfl⟩ := inductionHypothesis scanned'
          exact ⟨rfl, rfl, rfl⟩
  | inner inside expanded inductionHypothesis =>
      cases second with
      | inner inside' expanded' => exact inductionHypothesis expanded'
      | finished outermost | unfinished outermost => omega
  | finished outermost expansion finalized inductionHypothesis =>
      cases second with
      | inner inside => omega
      | finished outermost' expansion' finalized' =>
          have same := inductionHypothesis expansion'
          simp_all
      | unfinished outermost' expansion' =>
          have same := inductionHypothesis expansion'
          simp_all
  | unfinished outermost expansion inductionHypothesis =>
      cases second with
      | inner inside => omega
      | finished outermost' expansion' finalized' =>
          have same := inductionHypothesis expansion'
          simp_all
      | unfinished outermost' expansion' =>
          have same := inductionHypothesis expansion'
          simp_all

/-- A text without notation is its own expansion. -/
theorem expand_plain
    {scope : Scope}
    {plain : Text}
    {journal : Journal}
    (clear : ¬ spanOpener <:+: plain) :
    Run engine (.expand scope plain) journal 0 (.ok plain) journal :=
  .nested (.clear (Span.find_eq_none_iff.2 clear))

end Run

/-- What stands in place of a span is what it evaluates to, or else the mark of
a fault that is shown. -/
theorem Engine.on_replacement
    (engine : Engine)
    (answers : Answers)
    (scope : Scope)
    (span : Span)
    (template : Text)
    (offset : Nat)
    (journal : Journal) :
    (engine.replacement answers scope span template offset).on journal =
      match (engine.evaluate answers scope span.inner).on journal with
      | (.ok text, after) => (.ok text, after)
      | (.error fault, after) =>
          if scope.policy.shows fault = true then
            (showFault scope fault span.whole
              (Origins.linesBefore template offset)).on after
          else (.error fault, after) := by
  unfold replacement
  rw [Action.on_bind, Action.on_outcome]
  rcases (engine.evaluate answers scope span.inner).on journal with ⟨fault | text, after⟩
  · change (if scope.policy.shows fault = true then
        showFault scope fault span.whole (Origins.linesBefore template offset)
      else throw fault : Action Text).on after = _
    by_cases shows : scope.policy.shows fault = true
    · rw [if_pos shows]
      exact (if_pos shows).symm
    · rw [if_neg shows]
      exact (if_neg shows).symm
  · rfl

/-- Inside an expansion a rendering is an expansion. -/
theorem Engine.on_renderBy_inside
    (engine : Engine)
    (expand : Scope → Text → Action Text)
    (scope : Scope)
    (text : Text)
    {journal : Journal}
    (inside : 0 < journal.depth) :
    (engine.renderBy expand scope text).on journal = (expand scope text).on journal := by
  unfold renderBy
  rw [Action.on_bind, Action.on_get]
  simp only [inside, if_true]

/-- Outside of every expansion a rendering makes a document of what it expands. -/
theorem Engine.on_render_outermost
    (engine : Engine)
    (scope : Scope)
    (text : Text)
    {journal : Journal}
    (outermost : journal.depth = 0) :
    (engine.render scope text).on journal =
      (engine.expand scope text >>= engine.finalize).on journal.renewed := by
  have outside : ¬ 0 < journal.depth := by omega
  unfold render renderBy
  rw [Action.on_bind, Action.on_get]
  simp only [outside, if_false]
  rw [Action.on_bind, Action.on_set]
  rfl

/-- A step does a job from a journal as a run of the job does. -/
def Performs
    (engine : Engine)
    (action : Action Text)
    (job : Job)
    (journal : Journal) : Prop :=
  ∃ spans, Run engine job journal spans
    (action.on journal).1 (action.on journal).2

namespace Performs

variable {engine : Engine}

theorem of_run
    {action : Action Text}
    {job : Job}
    {journal after : Journal}
    {spans : Nat}
    {outcome : Except Fault Text}
    (result : action.on journal = (outcome, after))
    (run : Run engine job journal spans outcome after) :
    Performs engine action job journal := by
  refine ⟨spans, ?_⟩
  rw [result]
  exact run

/-- A performed job has the run of the step and no other. -/
theorem on_eq
    {action : Action Text}
    {job : Job}
    {journal after : Journal}
    {spans : Nat}
    {outcome : Except Fault Text}
    (performed : Performs engine action job journal)
    (run : Run engine job journal spans outcome after) :
    action.on journal = (outcome, after) := by
  obtain ⟨_, own⟩ := performed
  obtain ⟨-, sameOutcome, sameJournal⟩ := own.unique run
  exact Prod.ext sameOutcome sameJournal

/-- A script is performed when its requests are, on all journals that they can
lead to. -/
theorem script
    {expand : Scope → Text → Action Text}
    (holds : Journal → Prop)
    (stays : ∀ {job : Job} {journal after : Journal} {spans : Nat}
      {outcome : Except Fault Text}, holds journal →
      Run engine job journal spans outcome after → holds after)
    (expands : ∀ scope text journal, holds journal →
      Performs engine (expand scope text) (.expand scope text) journal)
    (renders : ∀ scope text journal, holds journal →
      Performs engine (engine.renderBy expand scope text) (.render scope text) journal)
    (script : Script Text)
    (journal : Journal)
    (start : holds journal) :
    Performs engine (script.run (engine.answersBy expand)) (.script script) journal := by
  induction script generalizing journal with
  | done result => exact ⟨0, .done⟩
  | fail fault => exact ⟨0, .fail⟩
  | expand scope text next inductionHypothesis =>
      obtain ⟨spans, answered⟩ := expands scope text journal start
      obtain ⟨more, rest⟩ := inductionHypothesis _ _ (stays start answered)
      exact ⟨spans + more, .expandRequest answered rest⟩
  | render scope text next inductionHypothesis =>
      obtain ⟨spans, answered⟩ := renders scope text journal start
      obtain ⟨more, rest⟩ := inductionHypothesis _ _ (stays start answered)
      exact ⟨spans + more, .renderRequest answered rest⟩
  | draw next inductionHypothesis =>
      have drawn := engine.on_draw journal
      have single : Run engine (.script (.draw fun _ => .done []))
        journal 0 (.ok []) _ := .drawRequest drawn .done
      obtain ⟨spans, rest⟩ := inductionHypothesis _ _ (stays start single)
      exact ⟨spans, .drawRequest drawn rest⟩
  | tooltip html source next inductionHypothesis =>
      have kept := engine.on_registerTooltip html source journal
      have single : Run engine (.script (.tooltip html source fun _ => .done []))
        journal 0 (.ok []) _ := .tooltipRequest kept .done
      obtain ⟨spans, rest⟩ := inductionHypothesis _ _ (stays start single)
      have continued : ((Script.tooltip html source next).run
          (engine.answersBy expand)).on journal = _ := Action.on_bind_of_ok kept
      refine ⟨spans, ?_⟩
      rw [continued]
      exact .tooltipRequest kept rest
  | report diagnostic next inductionHypothesis =>
      have single : Run engine (.script (.report diagnostic (.done [])))
        journal 0 (.ok []) _ := .reportRequest .done
      obtain ⟨spans, rest⟩ := inductionHypothesis _ (stays start single)
      exact ⟨spans, .reportRequest rest⟩

/-- The text in place of a span is found as its script says. -/
theorem replacement
    {expand : Scope → Text → Action Text}
    {scope : Scope}
    {span : Span}
    {journal : Journal}
    (followed : Performs engine
      ((engine.spanScript scope span.inner).run (engine.answersBy expand))
      (.script (engine.spanScript scope span.inner)) journal)
    (template : Text)
    (offset : Nat) :
    Performs engine
      (engine.replacement (engine.answersBy expand) scope span template offset)
      (.span scope span.inner template offset) journal := by
  obtain ⟨spans, run⟩ := followed
  rw [← engine.evaluate_eq_run_spanScript] at run
  have result := engine.on_replacement (engine.answersBy expand) scope span
    template offset journal
  rcases evaluated : (engine.evaluate (engine.answersBy expand) scope span.inner).on journal with
    ⟨fault | text, between⟩
  · rw [evaluated] at run result
    cases shows : scope.policy.shows fault with
    | true =>
        simp only [shows, if_true] at result
        exact of_run result (.marked run shows rfl)
    | false =>
        simp only [shows] at result
        exact of_run result (.aborted run shows)
  · rw [evaluated] at run result
    exact of_run result (.evaluated run)

/-- What a run needs of the fuel: inside an expansion there is no less than the
limit leaves. -/
def Fueled (engine : Engine) (fuel : Nat) (journal : Journal) : Prop :=
  0 < journal.depth ∧ engine.config.maxExpansions - journal.expansions ≤ fuel

/-- Runs use up the limit and not the fuel. -/
theorem fueled_of_run
    {fuel : Nat}
    {job : Job}
    {journal after : Journal}
    {spans : Nat}
    {outcome : Except Fault Text}
    (fueled : Fueled engine fuel journal)
    (run : Run engine job journal spans outcome after) :
    Fueled engine fuel after := by
  have growth := run.growth fueled.1
  have counted := growth.expansions_le
  have enough := fueled.2
  exact ⟨growth.depth_pos fueled.1, by omega⟩

/-- A script is performed with the answers of fueled scans. -/
theorem script_of_unfold
    {fuel : Nat}
    (scans : ∀ scope text journal, Fueled engine fuel journal →
      Performs engine (engine.unfold fuel scope text {} 0 text)
        (.scan scope text {} 0 text) journal)
    (script : Script Text)
    (journal : Journal)
    (fueled : Fueled engine fuel journal) :
    Performs engine
      (script.run (engine.answersBy fun scope text =>
        Action.nested (engine.unfold fuel scope text {} 0 text)))
      (.script script) journal := by
  have expands : ∀ scope text journal, Fueled engine fuel journal →
      Performs engine
        (Action.nested (engine.unfold fuel scope text {} 0 text))
        (.expand scope text) journal := by
    intro scope text journal fueled
    obtain ⟨spans, scanned⟩ := scans scope text journal.deeper ⟨Nat.succ_pos _, fueled.2⟩
    exact ⟨spans, .nested scanned⟩
  refine Performs.script (Fueled engine fuel) fueled_of_run expands ?_ script journal fueled
  intro scope text journal fueled
  obtain ⟨spans, expanded⟩ := expands scope text journal fueled
  refine of_run ?_ (.inner fueled.1 expanded)
  exact engine.on_renderBy_inside _ scope text fueled.1

/-- A scan is performed with any fuel that is not less than what the limit
leaves. -/
theorem unfold
    (fuel : Nat)
    (scope : Scope)
    (template : Text)
    (origins : Origins)
    (start : Nat)
    (text : Text)
    (journal : Journal)
    (fueled : Fueled engine fuel journal) :
    Performs engine (engine.unfold fuel scope template origins start text)
      (.scan scope template origins start text) journal := by
  induction fuel generalizing scope template origins start text journal with
  | zero =>
      unfold Engine.unfold
      rcases found : Span.find text with fault | _ | span
      · exact ⟨0, .unterminated found⟩
      · exact ⟨0, .clear found⟩
      · have counted := engine.on_countExpansion journal
        rw [if_pos (by have enough := fueled.2; omega)] at counted
        exact of_run (Action.on_bind_of_error counted) (.overrun found counted)
  | succ fuel inductionHypothesis =>
      unfold Engine.unfold
      rcases found : Span.find text with fault | _ | span
      · exact ⟨0, .unterminated found⟩
      · exact ⟨0, .clear found⟩
      · rcases counted : engine.countExpansion.on journal with ⟨fault | _, between⟩
        · exact of_run (Action.on_bind_of_error counted) (.overrun found counted)
        · obtain ⟨below, rfl⟩ := engine.on_countExpansion_ok counted
          -- the counter went up, so what the limit leaves fits the smaller fuel
          have left : Fueled engine fuel
              { journal with expansions := journal.expansions + 1 } :=
            ⟨fueled.1, by have enough := fueled.2; simp only; omega⟩
          have followed := script_of_unfold
            (fun scope text journal => inductionHypothesis scope text {} 0 text journal)
            (engine.spanScript scope span.inner) _ left
          obtain ⟨spans, evaluated⟩ := followed.replacement template
            (origins.source (start + Text.bytes span.before))
          rcases replaced : (engine.replacement
              (engine.answersBy fun scope text =>
                Action.nested (engine.unfold fuel scope text {} 0 text))
              scope span template
              (origins.source (start + Text.bytes span.before))).on
              { journal with expansions := journal.expansions + 1 } with
            ⟨fault | shown, middle⟩
          · rw [replaced] at evaluated
            exact of_run
              ((Action.on_bind_of_ok counted).trans (Action.on_bind_of_error replaced))
              (.stopped found counted evaluated)
          · rw [replaced] at evaluated
            obtain ⟨more, rest⟩ := inductionHypothesis scope template _ _
              (shown ++ span.after) middle (fueled_of_run left evaluated)
            refine of_run
              (((Action.on_bind_of_ok counted).trans (Action.on_bind_of_ok replaced)).trans ?_)
              (.replaced found counted evaluated rest)
            rw [bind_pure_comp, Action.on_map]

/-- An expansion is performed on every journal. -/
theorem expand
    (scope : Scope)
    (text : Text)
    (journal : Journal) :
    Performs engine (engine.expand scope text) (.expand scope text) journal := by
  obtain ⟨spans, scanned⟩ : Performs engine
      (engine.unfold (engine.config.maxExpansions - journal.expansions)
        scope text {} 0 text)
      (.scan scope text {} 0 text) journal.deeper :=
    unfold _ scope text {} 0 text journal.deeper ⟨Nat.succ_pos _, Nat.le_refl _⟩
  refine of_run ?_ (.nested scanned)
  unfold Engine.expand
  rw [Action.on_bind, Action.on_get]
  rfl

/-- A rendering is performed on every journal. -/
theorem render
    (scope : Scope)
    (text : Text)
    (journal : Journal) :
    Performs engine (engine.render scope text) (.render scope text) journal := by
  by_cases inside : 0 < journal.depth
  · obtain ⟨spans, expanded⟩ : Performs engine (engine.expand scope text)
        (.expand scope text) journal := expand scope text journal
    exact of_run (engine.on_renderBy_inside _ scope text inside) (.inner inside expanded)
  · have outermost : journal.depth = 0 := Nat.eq_zero_of_not_pos inside
    obtain ⟨spans, expansion⟩ : Performs engine (engine.expand scope text)
        (.expand scope text) journal.renewed := expand scope text journal.renewed
    have begun := engine.on_render_outermost scope text outermost
    rcases expanded : (engine.expand scope text).on journal.renewed with
      ⟨fault | document, between⟩
    · rw [expanded] at expansion
      exact of_run (begun.trans (Action.on_bind_of_error expanded))
        (.unfinished outermost expansion)
    · rw [expanded] at expansion
      exact of_run (begun.trans (Action.on_bind_of_ok expanded))
        (.finished outermost expansion rfl)

/-- A script that asks for expansions is performed on every journal. -/
theorem script_of_expand
    (script : Script Text)
    (journal : Journal) :
    Performs engine (script.run (engine.answersBy engine.expand))
      (.script script) journal := by
  refine Performs.script (fun _ => True) (fun _ _ => trivial) ?_ ?_ script journal trivial
  · intro scope text journal _
    exact expand scope text journal
  · intro scope text journal _
    exact render scope text journal

/-- A call by name is performed on every journal. -/
theorem dispatch
    (scope : Scope)
    (name : String)
    (content : Text)
    (journal : Journal) :
    Performs engine (engine.dispatch scope name content)
      (.script (engine.callScript scope name content)) journal := by
  unfold Engine.dispatch
  rw [engine.dispatchWith_eq_run_callScript]
  exact script_of_expand _ journal

end Performs

end CharacterSheet
