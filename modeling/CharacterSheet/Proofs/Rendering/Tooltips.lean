import CharacterSheet.Proofs.Handler.Tooltips
import CharacterSheet.Proofs.Rendering.Document
import CharacterSheet.Proofs.Rendering.Growth

/-!
# What a renderer keeps aside

If a registry asks to keep only markup of a kind aside, then all markup that is
kept aside is of that kind, and a run leaves it so (`Run.keeps`).
-/

namespace CharacterSheet

namespace Placeholders

variable {kept : Text → Prop}

/-- All markup that is kept aside is of a kind. -/
def Holds (kept : Text → Prop) (placeholders : Placeholders) : Prop :=
  ∀ entry ∈ placeholders.entries, kept entry.2

theorem Holds.get?
    {placeholders : Placeholders}
    {id : String}
    {html : Text}
    (holds : placeholders.Holds kept)
    (found : placeholders.get? id = some html) :
    kept html := by
  obtain ⟨before, after, same, -⟩ := List.lookup_eq_some_iff.1 found
  exact holds (id, html) (by simp [same])

theorem holds_clear (placeholders : Placeholders) : placeholders.clear.Holds kept :=
  fun _ member => absurd member List.not_mem_nil

theorem Holds.register
    {placeholders : Placeholders}
    {html : Text}
    (holds : placeholders.Holds kept)
    (words : WordSource)
    (keep : kept html) :
    (placeholders.register words html).2.Holds kept := by
  intro entry member
  rcases List.mem_cons.1 member with rfl | member
  · exact keep
  · exact holds entry (List.mem_filter.1 member).1

end Placeholders

namespace Engine

variable {kept : Text → Prop} {engine : Engine}

theorem keeps_spanScript
    (keeps : engine.registry.Keeps kept)
    (scope : Scope)
    (inner : Text) :
    (engine.spanScript scope inner).Keeps kept := by
  refine engine.spanScript_of_handlers (fun _ => trivial) (fun _ _ => trivial) ?_ inner
  intro name handler content found
  exact Script.AsksOnly.map resultText (keeps.find? found engine.setting scope content)

end Engine

namespace Job

/-- Whatever a job may ask to keep aside on its own is markup of a kind. -/
def Keeps (kept : Text → Prop) : Job → Prop
  | .script steps => steps.Keeps kept
  | _ => True

end Job

namespace Run

variable {engine : Engine} {kept : Text → Prop}

/-- A run keeps nothing aside but markup of the kind that the registry keeps. -/
theorem keeps
    {job : Job}
    {journal after : Journal}
    {spans : Nat}
    {outcome : Except Fault Text}
    (registry : engine.registry.Keeps kept)
    (run : Run engine job journal spans outcome after)
    (asked : job.Keeps kept)
    (holds : journal.placeholders.Holds kept) :
    after.placeholders.Holds kept := by
  have counting {journal after : Journal} {result : Except Fault Unit}
      (counted : engine.countExpansion.on journal = (result, after)) :
      after.placeholders = journal.placeholders := by
    rw [engine.on_countExpansion] at counted
    obtain ⟨-, rfl⟩ := Prod.mk.inj counted
    rfl
  induction run with
  | unterminated | clear | done | fail => exact holds
  | overrun found counted =>
      rw [counting counted]
      exact holds
  | stopped found within failed inductionHypothesis =>
      rw [← counting within] at holds
      exact inductionHypothesis trivial holds
  | replaced found within evaluated rest spanHypothesis restHypothesis =>
      rw [← counting within] at holds
      exact restHypothesis trivial (spanHypothesis trivial holds)
  | evaluated followed inductionHypothesis
  | aborted followed hides inductionHypothesis =>
      exact inductionHypothesis (Engine.keeps_spanScript registry _ _) holds
  | marked followed shows shown inductionHypothesis =>
      rw [Engine.on_showFault] at shown
      obtain ⟨-, rfl⟩ := Prod.mk.inj shown
      exact inductionHypothesis (Engine.keeps_spanScript registry _ _) holds
  | expandRequest answered rest answerHypothesis restHypothesis
  | renderRequest answered rest answerHypothesis restHypothesis =>
      exact restHypothesis (asked.2 _) (answerHypothesis trivial holds)
  | drawRequest drawn rest inductionHypothesis =>
      rw [engine.on_draw] at drawn
      obtain ⟨-, rfl⟩ := Prod.mk.inj drawn
      exact inductionHypothesis (asked.2 _) holds
  | @tooltipRequest html source _ _ _ _ journal _ _ registered rest inductionHypothesis =>
      rw [engine.on_registerTooltip] at registered
      obtain ⟨-, rfl⟩ := Prod.mk.inj registered
      exact inductionHypothesis (asked.2 _) (holds.register engine.words asked.1)
  | reportRequest _ inductionHypothesis => exact inductionHypothesis asked.2 holds
  | nested scanned inductionHypothesis => exact inductionHypothesis trivial holds
  | inner inside expanded inductionHypothesis => exact inductionHypothesis trivial holds
  | @finished _ _ _ _ _ journal _ _ outermost expansion finalized inductionHypothesis =>
      rw [engine.on_finalize] at finalized
      obtain ⟨-, rfl⟩ := Prod.mk.inj finalized
      rw [engine.noted_placeholders]
      exact inductionHypothesis trivial (Placeholders.holds_clear journal.placeholders)
  | @unfinished _ _ _ _ journal _ outermost expansion inductionHypothesis =>
      exact inductionHypothesis trivial (Placeholders.holds_clear journal.placeholders)

end Run

end CharacterSheet
