import CharacterSheet.Proofs.Rendering.Run

/-!
# What runs leave in the journal

Inside an expansion the journal only grows: the depth is the same again when a
run ends, the counter has gone up by at least the spans that were evaluated, and
nothing that was reported is taken back. The counter bounds the run: it evaluates
no more spans than the limit leaves.
-/

namespace CharacterSheet

namespace Engine

variable (engine : Engine)

/-- Counting always counts, and fails exactly beyond the limit. -/
theorem on_countExpansion (journal : Journal) :
    engine.countExpansion.on journal =
      (if engine.config.maxExpansions < journal.expansions + 1 then
          .error engine.overrun else .ok (),
        { journal with expansions := journal.expansions + 1 }) := by
  by_cases beyond : engine.config.maxExpansions < journal.expansions + 1
  · rw [if_pos beyond]
    unfold countExpansion
    simp only [Action.on_bind, Action.on_modify, Action.on_get, beyond, if_true,
      Action.on_throw]
  · rw [if_neg beyond]
    unfold countExpansion
    simp only [Action.on_bind, Action.on_modify, Action.on_get, beyond, if_false,
      Action.on_pure]

theorem on_countExpansion_ok
    {journal after : Journal}
    (within : engine.countExpansion.on journal = (.ok (), after)) :
    journal.expansions < engine.config.maxExpansions ∧
      after = { journal with expansions := journal.expansions + 1 } := by
  rw [on_countExpansion] at within
  by_cases beyond : engine.config.maxExpansions < journal.expansions + 1
  · simp [beyond] at within
  · simp only [beyond, if_false, Prod.mk.injEq, true_and] at within
    exact ⟨by omega, within.symm⟩

theorem on_countExpansion_error
    {journal after : Journal}
    {fault : Fault}
    (failed : engine.countExpansion.on journal = (.error fault, after)) :
    engine.config.maxExpansions ≤ journal.expansions ∧
      fault = engine.overrun ∧
      after = { journal with expansions := journal.expansions + 1 } := by
  rw [on_countExpansion] at failed
  by_cases beyond : engine.config.maxExpansions < journal.expansions + 1
  · rw [if_pos beyond] at failed
    cases failed
    exact ⟨Nat.le_of_lt_succ beyond, rfl, rfl⟩
  · rw [if_neg beyond] at failed
    cases failed

theorem on_draw (journal : Journal) :
    engine.draw.on journal =
      (.ok (journal.placeholders.draw engine.words).1,
        { journal with placeholders := (journal.placeholders.draw engine.words).2 }) := rfl

/-- The journal in which the markup of a tooltip is reported, if that is asked
for. -/
def announced (html source : Text) (journal : Journal) : Journal :=
  if engine.config.debugTooltips then
    { journal with
      diagnostics := journal.diagnostics.push
        { kind := .tooltipRegistered
          message := String.ofList html
          source? := some (String.ofList source) } }
  else journal

theorem on_registerTooltip (html source : Text) (journal : Journal) :
    (engine.registerTooltip html source).on journal =
      (.ok (journal.placeholders.register engine.words html).1,
        { engine.announced html source journal with
          placeholders := (journal.placeholders.register engine.words html).2 }) := by
  unfold registerTooltip announced
  cases engine.config.debugTooltips <;> rfl

/-- The mark of a fault in place of the notation that caused it. -/
def faultMark (scope : Scope) (fault : Fault) (source : Text) (lines : Nat) : Text :=
  errorMark fault.message.toList source scope.describe.toList
    (match scope.policy.location? with
      | some location => (location.advance lines).text
      | none => "unknown").toList

theorem on_showFault
    (scope : Scope)
    (fault : Fault)
    (source : Text)
    (lines : Nat)
    (journal : Journal) :
    (showFault scope fault source lines).on journal =
      (.ok (faultMark scope fault source lines),
        { journal with
          diagnostics := journal.diagnostics.push
            { kind := .inlineError
              message := fault.message
              source? := some (String.ofList source) } }) := rfl

end Engine

namespace Journal

/-- A later journal of the same expansion, `spans` evaluated spans on. -/
structure Extends (before : Journal) (spans : Nat) (after : Journal) : Prop where
  depth_eq : after.depth = before.depth
  expansions_le : before.expansions + spans ≤ after.expansions
  diagnostics_prefix : before.diagnostics.toList <+: after.diagnostics.toList

namespace Extends

theorem refl (journal : Journal) : journal.Extends 0 journal :=
  ⟨rfl, Nat.le_refl _, List.prefix_refl _⟩

theorem trans
    {before between after : Journal}
    {spans more : Nat}
    (first : before.Extends spans between)
    (second : between.Extends more after) :
    before.Extends (spans + more) after where
  depth_eq := second.depth_eq.trans first.depth_eq
  expansions_le := by
    have firstBound := first.expansions_le
    have secondBound := second.expansions_le
    omega
  diagnostics_prefix := first.diagnostics_prefix.trans second.diagnostics_prefix

theorem depth_pos
    {before after : Journal}
    {spans : Nat}
    (growth : before.Extends spans after)
    (inside : 0 < before.depth) : 0 < after.depth := by
  rw [growth.depth_eq]
  exact inside

/-- Reporting extends a journal. -/
theorem reported (journal : Journal) (diagnostic : Diagnostic) :
    journal.Extends 0 (journal.reporting diagnostic) := by
  refine ⟨rfl, Nat.le_refl _, ?_⟩
  rw [Journal.reporting, Array.toList_push]
  exact List.prefix_append _ _

/-- What an expansion did one level deeper extends the journal it began with. -/
theorem shallower
    {journal after : Journal}
    {spans : Nat}
    (growth : journal.deeper.Extends spans after) :
    journal.Extends spans after.shallower where
  depth_eq := by
    have same : after.depth = journal.depth + 1 := growth.depth_eq
    simp only [Journal.shallower, same, Nat.add_sub_cancel]
  expansions_le := growth.expansions_le
  diagnostics_prefix := growth.diagnostics_prefix

end Extends

end Journal

namespace Engine

variable (engine : Engine)

theorem extends_of_countExpansion
    {journal after : Journal}
    {result : Except Fault Unit}
    (counted : engine.countExpansion.on journal = (result, after)) :
    journal.Extends 1 after := by
  rw [on_countExpansion] at counted
  obtain ⟨-, rfl⟩ := Prod.mk.inj counted
  exact ⟨rfl, Nat.le_refl _, List.prefix_refl _⟩

theorem extends_of_draw
    {journal after : Journal}
    {result : Except Fault String}
    (drawn : engine.draw.on journal = (result, after)) :
    journal.Extends 0 after := by
  rw [on_draw] at drawn
  obtain ⟨-, rfl⟩ := Prod.mk.inj drawn
  exact ⟨rfl, Nat.le_refl _, List.prefix_refl _⟩

theorem extends_announced (html source : Text) (journal : Journal) :
    journal.Extends 0 (engine.announced html source journal) := by
  unfold announced
  split
  · exact Journal.Extends.reported journal _
  · exact Journal.Extends.refl journal

theorem extends_of_registerTooltip
    {html source : Text}
    {journal after : Journal}
    {result : Except Fault Text}
    (kept : (engine.registerTooltip html source).on journal = (result, after)) :
    journal.Extends 0 after := by
  rw [on_registerTooltip] at kept
  obtain ⟨-, rfl⟩ := Prod.mk.inj kept
  have announcement := engine.extends_announced html source journal
  exact ⟨announcement.depth_eq, announcement.expansions_le,
    announcement.diagnostics_prefix⟩

theorem extends_of_showFault
    {scope : Scope}
    {fault : Fault}
    {source : Text}
    {lines : Nat}
    {journal after : Journal}
    {result : Except Fault Text}
    (shown : (showFault scope fault source lines).on journal = (result, after)) :
    journal.Extends 0 after := by
  rw [on_showFault] at shown
  obtain ⟨-, rfl⟩ := Prod.mk.inj shown
  exact Journal.Extends.reported journal _

end Engine

namespace Run

variable {engine : Engine}

/-- A run inside an expansion extends the journal by the spans it evaluates. -/
theorem growth
    {job : Job}
    {journal after : Journal}
    {spans : Nat}
    {outcome : Except Fault Text}
    (run : Run engine job journal spans outcome after)
    (inside : 0 < journal.depth) :
    journal.Extends spans after := by
  induction run with
  | unterminated | clear | done | fail => exact Journal.Extends.refl _
  | overrun found counted =>
      have growth := engine.extends_of_countExpansion counted
      exact ⟨growth.depth_eq, Nat.le_of_succ_le growth.expansions_le,
        growth.diagnostics_prefix⟩
  | stopped found within failed inductionHypothesis =>
      have growth := engine.extends_of_countExpansion within
      have spanGrowth := inductionHypothesis (growth.depth_pos inside)
      rw [Nat.add_comm]
      exact growth.trans spanGrowth
  | replaced found within evaluated rest spanHypothesis restHypothesis =>
      have growth := engine.extends_of_countExpansion within
      have spanGrowth := growth.trans (spanHypothesis (growth.depth_pos inside))
      have restGrowth := restHypothesis (spanGrowth.depth_pos inside)
      rw [Nat.add_comm _ 1]
      exact spanGrowth.trans restGrowth
  | evaluated followed inductionHypothesis
  | aborted followed hides inductionHypothesis => exact inductionHypothesis inside
  | marked followed shows shown inductionHypothesis =>
      exact (inductionHypothesis inside).trans (Engine.extends_of_showFault shown)
  | expandRequest answered rest answerHypothesis restHypothesis
  | renderRequest answered rest answerHypothesis restHypothesis =>
      have growth := answerHypothesis inside
      exact growth.trans (restHypothesis (growth.depth_pos inside))
  | drawRequest drawn rest inductionHypothesis =>
      have growth := engine.extends_of_draw drawn
      simpa using growth.trans (inductionHypothesis (growth.depth_pos inside))
  | tooltipRequest kept rest inductionHypothesis =>
      have growth := engine.extends_of_registerTooltip kept
      simpa using growth.trans (inductionHypothesis (growth.depth_pos inside))
  | reportRequest rest inductionHypothesis =>
      simpa using (Journal.Extends.reported _ _).trans (inductionHypothesis inside)
  | nested scanned inductionHypothesis =>
      exact (inductionHypothesis (Nat.succ_pos _)).shallower
  | inner within expanded inductionHypothesis => exact inductionHypothesis inside
  | finished outermost | unfinished outermost =>
      rw [outermost] at inside
      exact absurd inside (Nat.lt_irrefl 0)

/-- An expansion extends its journal at any depth. -/
theorem growth_of_expand
    {scope : Scope}
    {text : Text}
    {journal after : Journal}
    {spans : Nat}
    {outcome : Except Fault Text}
    (run : Run engine (.expand scope text) journal spans outcome after) :
    journal.Extends spans after := by
  cases run with
  | nested scanned => exact (scanned.growth (Nat.succ_pos _)).shallower

/-- A run inside an expansion evaluates at most the spans that the limit leaves. -/
theorem spans_le
    {job : Job}
    {journal after : Journal}
    {spans : Nat}
    {outcome : Except Fault Text}
    (run : Run engine job journal spans outcome after)
    (inside : 0 < journal.depth) :
    spans ≤ engine.config.maxExpansions - journal.expansions := by
  induction run with
  | unterminated | clear | overrun | done | fail => exact Nat.zero_le _
  | stopped found within failed inductionHypothesis =>
      obtain ⟨below, rfl⟩ := engine.on_countExpansion_ok within
      have bound := inductionHypothesis inside
      simp only at bound
      omega
  | replaced found within evaluated rest spanHypothesis restHypothesis =>
      obtain ⟨below, rfl⟩ := engine.on_countExpansion_ok within
      have growth := evaluated.growth inside
      have spanBound := spanHypothesis inside
      have restBound := restHypothesis (growth.depth_pos inside)
      have counted := growth.expansions_le
      simp only at spanBound counted
      omega
  | evaluated followed inductionHypothesis
  | aborted followed hides inductionHypothesis
  | marked followed shows shown inductionHypothesis => exact inductionHypothesis inside
  | expandRequest answered rest answerHypothesis restHypothesis
  | renderRequest answered rest answerHypothesis restHypothesis =>
      have growth := answered.growth inside
      have answerBound := answerHypothesis inside
      have restBound := restHypothesis (growth.depth_pos inside)
      have counted := growth.expansions_le
      omega
  | drawRequest drawn rest inductionHypothesis =>
      have growth := engine.extends_of_draw drawn
      have bound := inductionHypothesis (growth.depth_pos inside)
      have counted := growth.expansions_le
      omega
  | tooltipRequest kept rest inductionHypothesis =>
      have growth := engine.extends_of_registerTooltip kept
      have bound := inductionHypothesis (growth.depth_pos inside)
      have counted := growth.expansions_le
      omega
  | reportRequest rest inductionHypothesis => exact inductionHypothesis inside
  | nested scanned inductionHypothesis => exact inductionHypothesis (Nat.succ_pos _)
  | inner within expanded inductionHypothesis => exact inductionHypothesis inside
  | finished outermost | unfinished outermost =>
      rw [outermost] at inside
      exact absurd inside (Nat.lt_irrefl 0)

theorem spans_le_of_expand
    {scope : Scope}
    {text : Text}
    {journal after : Journal}
    {spans : Nat}
    {outcome : Except Fault Text}
    (run : Run engine (.expand scope text) journal spans outcome after) :
    spans ≤ engine.config.maxExpansions - journal.expansions := by
  cases run with
  | nested scanned => exact scanned.spans_le (Nat.succ_pos _)

end Run

end CharacterSheet
