import CharacterSheet.Handler.Builtin
import CharacterSheet.Pattern.Linear
import CharacterSheet.Proofs.Rendering.Neutral
import CharacterSheet.Proofs.Rendering.Reports

/-!
# Lenient renderings without marks

A lenient policy differs from a strict one in a single step: the mark of a fault in
place of a span, and that step is reported. So with neutral handlers a lenient run that
reports no shown fault is the strict run as well (`Run.strictly`), also if it fails in the
end. A strict run shows none (`Run.marks_of_strict`), so there are no other such lenient
runs.

Reports are only added, so it is enough to look at their number before and after a
run: no part of an unmarked run can be marked.
-/

namespace CharacterSheet

namespace Policy

/-- The policy that shows no fault. -/
def strictly (policy : Policy) : Policy := { policy with strict := true }

/-- The policy that shows every fault that may be shown. -/
def leniently (policy : Policy) : Policy := { policy with strict := false }

theorem shows_of_strict
    {policy : Policy}
    (strict : policy.strict = true)
    (fault : Fault) :
    policy.shows fault = false := by
  rw [shows, strict]
  rfl

end Policy

namespace Scope

/-- The scope under the policy that shows no fault. -/
def strictly (scope : Scope) : Scope := scope.under scope.policy.strictly

/-- The scope under the policy that shows every fault that may be shown. -/
def leniently (scope : Scope) : Scope := scope.under scope.policy.leniently

end Scope

namespace Journal

/-- How many faults were shown so far. -/
def marks (journal : Journal) : Nat :=
  journal.diagnostics.toList.countP fun event => event.kind = .inlineError

theorem marks_reporting
    {diagnostic : Diagnostic}
    (other : diagnostic.kind ≠ .inlineError)
    (journal : Journal) :
    (journal.reporting diagnostic).marks = journal.marks := by
  simp [marks, reporting, other]

namespace Continues

variable {before between after : Journal}

theorem marks_le (continued : before.Continues after) : before.marks ≤ after.marks :=
  continued.diagnostics_prefix.sublist.countP_le

/-- The first part of an unmarked run is unmarked. -/
theorem marks_eq_first
    (first : before.Continues between)
    (second : between.Continues after)
    (unmarked : after.marks = before.marks) :
    between.marks = before.marks := by
  have firstBound := first.marks_le
  have secondBound := second.marks_le
  omega

/-- The second part of an unmarked run is unmarked. -/
theorem marks_eq_second
    (first : before.Continues between)
    (second : between.Continues after)
    (unmarked : after.marks = before.marks) :
    after.marks = between.marks := by
  have firstBound := first.marks_le
  have secondBound := second.marks_le
  omega

/-- No fault was shown since if no later report is about one. -/
theorem marks_eq_iff (continued : before.Continues after) :
    after.marks = before.marks ↔
      ∀ event ∈ after.reportedSince before, event.kind ≠ .inlineError := by
  unfold marks
  rw [← continued.toList_append_reportedSince, List.countP_append]
  simp [List.countP_eq_zero]

end Continues

end Journal

namespace Engine

variable (engine : Engine)

/-- Showing a fault makes one mark more. -/
theorem marks_of_showFault
    {scope : Scope}
    {fault : Fault}
    {source : Text}
    {lines : Nat}
    {journal after : Journal}
    {result : Except Fault Text}
    (shown : (showFault scope fault source lines).on journal = (result, after)) :
    after.marks = journal.marks + 1 := by
  rw [on_showFault] at shown
  obtain ⟨-, rfl⟩ := Prod.mk.inj shown
  simp [Journal.marks]

theorem marks_of_countExpansion
    {journal after : Journal}
    {result : Except Fault Unit}
    (counted : engine.countExpansion.on journal = (result, after)) :
    after.marks = journal.marks := by
  rw [on_countExpansion] at counted
  obtain ⟨-, rfl⟩ := Prod.mk.inj counted
  rfl

theorem marks_of_draw
    {journal after : Journal}
    {result : Except Fault String}
    (drawn : engine.draw.on journal = (result, after)) :
    after.marks = journal.marks := by
  rw [on_draw] at drawn
  obtain ⟨-, rfl⟩ := Prod.mk.inj drawn
  rfl

theorem marks_of_registerTooltip
    {html source : Text}
    {journal after : Journal}
    {result : Except Fault Text}
    (kept : (engine.registerTooltip html source).on journal = (result, after)) :
    after.marks = journal.marks := by
  rw [on_registerTooltip] at kept
  obtain ⟨-, rfl⟩ := Prod.mk.inj kept
  unfold announced
  split <;> simp [Journal.marks]

theorem marks_of_finalize
    {text : Text}
    {journal after : Journal}
    {result : Except Fault Text}
    (finalized : (engine.finalize text).on journal = (result, after)) :
    after.marks = journal.marks := by
  rw [on_finalize] at finalized
  obtain ⟨-, rfl⟩ := Prod.mk.inj finalized
  unfold noted
  split <;> simp [Journal.marks]

end Engine

namespace Run

variable {engine : Engine}

/-- A run under a strict policy shows no fault. -/
theorem marks_of_strict
    {policy : Policy}
    {job : Job}
    {journal after : Journal}
    {spans : Nat}
    {outcome : Except Fault Text}
    (neutral : engine.registry.Neutral)
    (strict : policy.strict = true)
    (run : Run engine job journal spans outcome after)
    (stays : job.StaysUnder policy)
    (unmarked : job.Unmarked) :
    after.marks = journal.marks := by
  induction run with
  | unterminated | clear | done | fail => rfl
  | overrun found counted => exact engine.marks_of_countExpansion counted
  | stopped found within _ inductionHypothesis =>
      exact (inductionHypothesis stays trivial).trans (engine.marks_of_countExpansion within)
  | replaced found within _ _ spanHypothesis restHypothesis =>
      exact ((restHypothesis stays trivial).trans (spanHypothesis stays trivial)).trans
        (engine.marks_of_countExpansion within)
  | evaluated _ inductionHypothesis | aborted _ _ inductionHypothesis =>
      cases stays
      exact inductionHypothesis (Engine.staysUnder_spanScript neutral _ _)
        (Engine.unmarked_spanScript neutral _ _)
  | marked _ shows =>
      cases stays
      rw [Policy.shows_of_strict strict] at shows
      cases shows
  | nested _ inductionHypothesis | inner _ _ inductionHypothesis
  | unfinished _ _ inductionHypothesis => exact inductionHypothesis stays trivial
  | expandRequest _ _ answerHypothesis restHypothesis
  | renderRequest _ _ answerHypothesis restHypothesis =>
      exact (restHypothesis (stays.2 _) (unmarked.2 _)).trans (answerHypothesis stays.1 trivial)
  | drawRequest drawn _ inductionHypothesis =>
      exact (inductionHypothesis (stays.2 _) (unmarked.2 _)).trans (engine.marks_of_draw drawn)
  | tooltipRequest kept _ inductionHypothesis =>
      exact (inductionHypothesis (stays.2 _) (unmarked.2 _)).trans
        (engine.marks_of_registerTooltip kept)
  | reportRequest _ inductionHypothesis =>
      exact (inductionHypothesis stays.2 unmarked.2).trans (Journal.marks_reporting unmarked.1 _)
  | finished _ _ finalized inductionHypothesis =>
      exact (engine.marks_of_finalize finalized).trans (inductionHypothesis stays trivial)

/-- An unmarked run is a run under every strict policy, with the same spans, the same
outcome and the same journal. -/
theorem strictly
    {policy : Policy}
    {job : Job}
    {journal after : Journal}
    {spans : Nat}
    {outcome : Except Fault Text}
    (neutral : engine.registry.Neutral)
    (strict : policy.strict = true)
    (run : Run engine job journal spans outcome after)
    (unmarked : after.marks = journal.marks) :
    Run engine (job.under policy) journal spans outcome after := by
  induction run with
  | unterminated found => exact .unterminated found
  | clear found => exact .clear found
  | overrun found counted => exact .overrun found counted
  | stopped found within failed inductionHypothesis =>
      have counting := (engine.extends_of_countExpansion within).continues
      exact .stopped found within
        (inductionHypothesis (counting.marks_eq_second failed.continues unmarked))
  | replaced found within evaluated rest spanHypothesis restHypothesis =>
      have counting := (engine.extends_of_countExpansion within).continues
      have counted := counting.marks_eq_second (evaluated.continues.trans rest.continues)
        unmarked
      exact .replaced found within
        (spanHypothesis (evaluated.continues.marks_eq_first rest.continues counted))
        (restHypothesis (evaluated.continues.marks_eq_second rest.continues counted))
  | evaluated _ inductionHypothesis =>
      have followed := inductionHypothesis unmarked
      rw [Job.under, Engine.spanScript_under neutral] at followed
      exact .evaluated followed
  | marked followed shows shown inductionHypothesis =>
      have bound := followed.continues.marks_le
      have more := Engine.marks_of_showFault shown
      omega
  | aborted _ _ inductionHypothesis =>
      have followed := inductionHypothesis unmarked
      rw [Job.under, Engine.spanScript_under neutral] at followed
      exact .aborted followed (Policy.shows_of_strict strict _)
  | done => exact .done
  | fail => exact .fail
  | expandRequest answered rest answerHypothesis restHypothesis =>
      exact .expandRequest
        (answerHypothesis (answered.continues.marks_eq_first rest.continues unmarked))
        (restHypothesis (answered.continues.marks_eq_second rest.continues unmarked))
  | renderRequest answered rest answerHypothesis restHypothesis =>
      exact .renderRequest
        (answerHypothesis (answered.continues.marks_eq_first rest.continues unmarked))
        (restHypothesis (answered.continues.marks_eq_second rest.continues unmarked))
  | drawRequest drawn rest inductionHypothesis =>
      have drawing := (engine.extends_of_draw drawn).continues
      exact .drawRequest drawn
        (inductionHypothesis (drawing.marks_eq_second rest.continues unmarked))
  | tooltipRequest kept rest inductionHypothesis =>
      have keeping := (engine.extends_of_registerTooltip kept).continues
      exact .tooltipRequest kept
        (inductionHypothesis (keeping.marks_eq_second rest.continues unmarked))
  | @reportRequest diagnostic _ _ _ journal _ rest inductionHypothesis =>
      have reporting := (Journal.Extends.reported journal diagnostic).continues
      exact .reportRequest
        (inductionHypothesis (reporting.marks_eq_second rest.continues unmarked))
  | nested _ inductionHypothesis => exact .nested (inductionHypothesis unmarked)
  | inner inside _ inductionHypothesis => exact .inner inside (inductionHypothesis unmarked)
  | finished outermost expansion finalized inductionHypothesis =>
      have finishing := engine.continues_of_finalize finalized
      exact .finished outermost
        (inductionHypothesis (expansion.continues.marks_eq_first finishing unmarked)) finalized
  | unfinished outermost _ inductionHypothesis =>
      exact .unfinished outermost (inductionHypothesis unmarked)

end Run

namespace Engine

variable (engine : Engine)

/-- With neutral handlers a lenient rendering is the strict one exactly if it reports no
shown fault: then the outcome is the same, whether a document or a fault, and so are the
reports and all else in the journal. -/
theorem render_strictly_eq_iff
    (neutral : engine.registry.Neutral)
    (scope : Scope)
    (text : Text)
    (journal : Journal) :
    (engine.render scope.strictly text).on journal =
        (engine.render scope.leniently text).on journal ↔
      ∀ event ∈ ((engine.render scope.leniently text).on journal).2.reportedSince journal,
        event.kind ≠ .inlineError := by
  obtain ⟨spans, run⟩ : Performs engine (engine.render scope.leniently text)
      (.render scope.leniently text) journal := Performs.render scope.leniently text journal
  have performed : Performs engine (engine.render scope.strictly text)
      (.render scope.strictly text) journal := Performs.render scope.strictly text journal
  have strict : scope.policy.strictly.strict = true := rfl
  rw [← run.continues.marks_eq_iff]
  constructor
  · intro same
    obtain ⟨_, strictRun⟩ := performed
    rw [same] at strictRun
    exact strictRun.marks_of_strict neutral strict rfl trivial
  · intro unmarked
    exact performed.on_eq (run.strictly neutral strict unmarked)

/-- A missing nickname is no fault, so both renderings are the same; a missing name is one, so
they differ. -/
theorem render_strictly_eq_iff_of_missing :
    let engine : Engine :=
      { config := {}
        registry := .builtin
        rules := ⟨[]⟩
        patterns := .linear
        words := .counting 0 }
    let scope : Scope := { character := .object [] }
    let nickname : Text := "\x7b\x7bIFNA:nickname,none,some\x7d\x7d".toList
    let name : Text := "\x7b\x7bNAME\x7d\x7d".toList
    engine.registry.Neutral ∧
      (engine.render scope.strictly nickname).on {} =
        (engine.render scope.leniently nickname).on {} ∧
      (engine.render scope.strictly name).on {} ≠ (engine.render scope.leniently name).on {} := by
  intro engine scope nickname name
  have neutral : engine.registry.Neutral := Registry.neutral_builtin
  refine ⟨neutral, (engine.render_strictly_eq_iff neutral scope nickname {}).2 ?_,
    fun same => absurd ((engine.render_strictly_eq_iff neutral scope name {}).1 same) ?_⟩
  · decide +kernel
  · decide +kernel

end Engine
end CharacterSheet
