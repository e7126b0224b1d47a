import CharacterSheet.Proofs.Rendering.Document
import CharacterSheet.Proofs.Rendering.Existence

/-!
# What a run reports

A renderer writes reports and never reads them. So reports from earlier runs only
stand in front of those of the next one (`Run.preceded`). At any depth, also
outside of every expansion, a run takes back no report and ends at the depth at
which it began (`Run.continues`).
-/

namespace CharacterSheet

namespace Journal

/-- The journal with events in front that were reported earlier. -/
def preceded (earlier : Array Diagnostic) (journal : Journal) : Journal :=
  { journal with diagnostics := earlier ++ journal.diagnostics }

theorem reporting_preceded
    (diagnostic : Diagnostic)
    (earlier : Array Diagnostic)
    (journal : Journal) :
    (journal.preceded earlier).reporting diagnostic =
      (journal.reporting diagnostic).preceded earlier := by
  simp only [reporting, preceded, Array.append_push]

/-- The events that were reported after an earlier journal. -/
def reportedSince (journal earlier : Journal) : List Diagnostic :=
  journal.diagnostics.toList.drop earlier.diagnostics.size

/-- A journal at the same depth that has all reports of an earlier one. -/
structure Continues (before after : Journal) : Prop where
  depth_eq : after.depth = before.depth
  diagnostics_prefix : before.diagnostics.toList <+: after.diagnostics.toList

theorem Extends.continues
    {before after : Journal}
    {spans : Nat}
    (growth : before.Extends spans after) :
    before.Continues after :=
  ⟨growth.depth_eq, growth.diagnostics_prefix⟩

namespace Continues

theorem refl (journal : Journal) : journal.Continues journal :=
  ⟨rfl, List.prefix_refl _⟩

theorem trans
    {before between after : Journal}
    (first : before.Continues between)
    (second : between.Continues after) :
    before.Continues after :=
  ⟨second.depth_eq.trans first.depth_eq,
    first.diagnostics_prefix.trans second.diagnostics_prefix⟩

/-- What an expansion did one level deeper continues the journal it began with. -/
theorem shallower
    {journal after : Journal}
    (continued : journal.deeper.Continues after) :
    journal.Continues after.shallower where
  depth_eq := by
    have same : after.depth = journal.depth + 1 := continued.depth_eq
    simp only [Journal.shallower, same, Nat.add_sub_cancel]
  diagnostics_prefix := continued.diagnostics_prefix

/-- What an outermost rendering did continues the journal it was asked on. -/
theorem of_renewed
    {journal after : Journal}
    (continued : journal.renewed.Continues after) :
    journal.Continues after :=
  ⟨continued.depth_eq, continued.diagnostics_prefix⟩

/-- A journal holds the earlier reports and those that came since. -/
theorem toList_append_reportedSince
    {before after : Journal}
    (continued : before.Continues after) :
    before.diagnostics.toList ++ after.reportedSince before = after.diagnostics.toList := by
  have whole := List.prefix_iff_eq_append.1 continued.diagnostics_prefix
  rw [Array.length_toList] at whole
  exact whole

end Continues

end Journal

namespace Engine

variable (engine : Engine)

/-- Making a document takes no report back. -/
theorem continues_of_finalize
    {text : Text}
    {journal after : Journal}
    {result : Except Fault Text}
    (finalized : (engine.finalize text).on journal = (result, after)) :
    journal.Continues after := by
  rw [on_finalize] at finalized
  obtain ⟨-, rfl⟩ := Prod.mk.inj finalized
  unfold noted
  split
  · exact (Journal.Extends.reported journal _).continues
  · exact .refl journal

end Engine

namespace Action

variable {α : Type}

/-- A step that does the same whatever was reported before. -/
def IgnoresReports (action : Action α) : Prop :=
  ∀ earlier journal, action.on (journal.preceded earlier) =
    ((action.on journal).1, (action.on journal).2.preceded earlier)

/-- The result of a step on a journal with earlier reports. -/
theorem IgnoresReports.on_preceded
    {action : Action α}
    {journal after : Journal}
    {result : Except Fault α}
    (ignores : action.IgnoresReports)
    (did : action.on journal = (result, after))
    (earlier : Array Diagnostic) :
    action.on (journal.preceded earlier) = (result, after.preceded earlier) := by
  rw [ignores, did]

end Action

namespace Engine

variable (engine : Engine)

theorem countExpansion_ignoresReports : engine.countExpansion.IgnoresReports := by
  intro earlier journal
  simp only [on_countExpansion]
  rfl

theorem draw_ignoresReports : engine.draw.IgnoresReports := fun _ _ => rfl

theorem registerTooltip_ignoresReports (html source : Text) :
    (engine.registerTooltip html source).IgnoresReports := by
  intro earlier journal
  simp only [on_registerTooltip, announced]
  cases engine.config.debugTooltips with
  | false => rfl
  | true => simp only [Journal.preceded, Array.append_push, if_true]

theorem showFault_ignoresReports
    (scope : Scope)
    (fault : Fault)
    (source : Text)
    (lines : Nat) :
    (showFault scope fault source lines).IgnoresReports := by
  intro earlier journal
  simp only [on_showFault, Journal.preceded, Array.append_push]

theorem finalize_ignoresReports (text : Text) : (engine.finalize text).IgnoresReports := by
  intro earlier journal
  simp only [on_finalize, noted, Journal.preceded]
  split
  · rw [Array.append_push]
  · rfl

end Engine

namespace Run

variable {engine : Engine}

/-- Earlier reports stay in front and change nothing. -/
theorem preceded
    {job : Job}
    {journal after : Journal}
    {spans : Nat}
    {outcome : Except Fault Text}
    (run : Run engine job journal spans outcome after)
    (earlier : Array Diagnostic) :
    Run engine job (journal.preceded earlier) spans outcome
      (after.preceded earlier) := by
  have counting := engine.countExpansion_ignoresReports
  induction run with
  | unterminated found => exact .unterminated found
  | clear found => exact .clear found
  | overrun found counted => exact .overrun found (counting.on_preceded counted earlier)
  | stopped found within _ inductionHypothesis =>
      exact .stopped found (counting.on_preceded within earlier) inductionHypothesis
  | replaced found within _ _ spanHypothesis restHypothesis =>
      exact .replaced found (counting.on_preceded within earlier) spanHypothesis restHypothesis
  | evaluated _ inductionHypothesis => exact .evaluated inductionHypothesis
  | marked _ shows shown inductionHypothesis =>
      exact .marked inductionHypothesis shows
        ((Engine.showFault_ignoresReports _ _ _ _).on_preceded shown earlier)
  | aborted _ hides inductionHypothesis => exact .aborted inductionHypothesis hides
  | done => exact .done
  | fail => exact .fail
  | expandRequest _ _ answerHypothesis restHypothesis =>
      exact .expandRequest answerHypothesis restHypothesis
  | renderRequest _ _ answerHypothesis restHypothesis =>
      exact .renderRequest answerHypothesis restHypothesis
  | drawRequest drawn _ inductionHypothesis =>
      exact .drawRequest (engine.draw_ignoresReports.on_preceded drawn earlier)
        inductionHypothesis
  | tooltipRequest kept _ inductionHypothesis =>
      exact .tooltipRequest
        ((engine.registerTooltip_ignoresReports _ _).on_preceded kept earlier)
        inductionHypothesis
  | reportRequest _ inductionHypothesis =>
      rw [← Journal.reporting_preceded] at inductionHypothesis
      exact .reportRequest inductionHypothesis
  | @nested scope text spans outcome journal after _ inductionHypothesis =>
      have scanned : Run engine (.scan scope text {} 0 text)
        (journal.preceded earlier).deeper spans outcome (after.preceded earlier) :=
          inductionHypothesis
      exact .nested scanned
  | inner inside _ inductionHypothesis => exact .inner inside inductionHypothesis
  | finished outermost _ finalized inductionHypothesis =>
      exact .finished outermost inductionHypothesis
        ((engine.finalize_ignoresReports _).on_preceded finalized earlier)
  | unfinished outermost _ inductionHypothesis =>
      exact .unfinished outermost inductionHypothesis

/-- A run ends at the depth at which it began and takes no report back. -/
theorem continues
    {job : Job}
    {journal after : Journal}
    {spans : Nat}
    {outcome : Except Fault Text}
    (run : Run engine job journal spans outcome after) :
    journal.Continues after := by
  induction run with
  | unterminated | clear | done | fail => exact .refl _
  | overrun found counted => exact (engine.extends_of_countExpansion counted).continues
  | stopped found within _ inductionHypothesis =>
      exact (engine.extends_of_countExpansion within).continues.trans inductionHypothesis
  | replaced found within _ _ spanHypothesis restHypothesis =>
      exact ((engine.extends_of_countExpansion within).continues.trans
        spanHypothesis).trans restHypothesis
  | evaluated _ inductionHypothesis
  | aborted _ _ inductionHypothesis => exact inductionHypothesis
  | marked _ shows shown inductionHypothesis =>
      exact inductionHypothesis.trans (Engine.extends_of_showFault shown).continues
  | expandRequest _ _ answerHypothesis restHypothesis
  | renderRequest _ _ answerHypothesis restHypothesis =>
      exact answerHypothesis.trans restHypothesis
  | drawRequest drawn _ inductionHypothesis =>
      exact (engine.extends_of_draw drawn).continues.trans inductionHypothesis
  | tooltipRequest kept _ inductionHypothesis =>
      exact (engine.extends_of_registerTooltip kept).continues.trans inductionHypothesis
  | reportRequest _ inductionHypothesis =>
      exact (Journal.Extends.reported _ _).continues.trans inductionHypothesis
  | nested _ inductionHypothesis => exact inductionHypothesis.shallower
  | inner inside _ inductionHypothesis => exact inductionHypothesis
  | finished outermost _ finalized inductionHypothesis =>
      exact inductionHypothesis.of_renewed.trans (engine.continues_of_finalize finalized)
  | unfinished outermost _ inductionHypothesis => exact inductionHypothesis.of_renewed

end Run

end CharacterSheet
