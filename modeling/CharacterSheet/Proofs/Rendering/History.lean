import CharacterSheet.Proofs.Rendering.Reports

/-!
# Renderings after other calls

A renderer may be called many times. Between two calls it is outside of every
expansion again (`Engine.depth_journalAfter`), however the earlier calls ended, and
an outermost rendering starts with no tooltips and a counter of zero. So of
everything that happened before, a rendering depends on nothing but how many words
its identifiers have used up (`Engine.render_of_history`).
-/

namespace CharacterSheet

/-- A call that a renderer answers. -/
inductive Call
  | render (scope : Scope) (text : Text)
  | expand (scope : Scope) (text : Text)
  | dispatch (scope : Scope) (name : String) (content : Text)
  | resolve (scope : Scope) (reference : Text)
  | registerTooltip (html source : Text)
  | draw

/-- What a renderer answers. -/
inductive Reply
  | text (text : Text)
  | value (value : Value)
  | identifier (id : String)

namespace Journal

/-- The journal of a renderer that has done nothing yet, but whose next identifier is
made of the word of a given number. -/
def fresh (drawn : Nat) : Journal := { placeholders := { drawn } }

/-- Outside of every expansion, a journal is renewed to that of a fresh renderer, with
what was reported in front. -/
theorem renewed_of_outermost
    {journal : Journal}
    (outermost : journal.depth = 0) :
    journal.renewed = (fresh journal.placeholders.drawn).renewed.preceded
      journal.diagnostics := by
  simp [renewed, fresh, preceded, Placeholders.clear, outermost]

end Journal

namespace Engine

variable (engine : Engine)

/-- Answers a call. -/
def answer : Call → Action Reply
  | .render scope text => .text <$> engine.render scope text
  | .expand scope text => .text <$> engine.expand scope text
  | .dispatch scope name content =>
      .text <$> engine.dispatch scope name content
  | .resolve scope reference =>
      match engine.resolve scope reference with
      | .ok value => pure (.value value)
      | .error fault => throw fault
  | .registerTooltip html source => .text <$> engine.registerTooltip html source
  | .draw => .identifier <$> engine.draw

/-- The journal after calls that were answered one after the other. -/
def journalAfter (calls : List Call) (journal : Journal) : Journal :=
  calls.foldl (fun journal call => ((engine.answer call).on journal).2) journal

/-- A call leaves the depth as it was, whether it succeeds or fails. -/
theorem depth_answer (call : Call) (journal : Journal) :
    ((engine.answer call).on journal).2.depth = journal.depth := by
  have performed {action : Action Text} {job : Job}
      (performs : Performs engine action job journal) :
      ((Reply.text <$> action : Action Reply).on journal).2.depth = journal.depth := by
    obtain ⟨spans, run⟩ := performs
    rw [Action.on_map]
    exact run.continues.depth_eq
  cases call with
  | render scope text => exact performed (.render scope text journal)
  | expand scope text => exact performed (.expand scope text journal)
  | dispatch scope name content =>
      exact performed (.dispatch scope name content journal)
  | resolve scope reference =>
      simp only [answer]
      cases engine.resolve scope reference <;> rfl
  | registerTooltip html source =>
      have kept : (engine.registerTooltip html source).on journal =
          (_, ((engine.registerTooltip html source).on journal).2) := rfl
      simp only [answer, Action.on_map]
      exact (engine.extends_of_registerTooltip kept).depth_eq
  | draw => rfl

/-- After any calls a renderer is outside of every expansion again. -/
theorem depth_journalAfter
    (calls : List Call)
    {journal : Journal}
    (outermost : journal.depth = 0) :
    (engine.journalAfter calls journal).depth = 0 := by
  induction calls generalizing journal with
  | nil => exact outermost
  | cons call calls inductionHypothesis =>
      exact inductionHypothesis ((engine.depth_answer call journal).trans outermost)

/-- An outermost rendering starts from a renewed journal. -/
theorem on_render_renewed
    (scope : Scope)
    (text : Text)
    {journal : Journal}
    (outermost : journal.depth = 0) :
    (engine.render scope text).on journal =
      (engine.render scope text).on journal.renewed := by
  obtain ⟨spans, run⟩ : Performs engine (engine.render scope text)
      (.render scope text) journal := Performs.render scope text journal
  have again : Performs engine (engine.render scope text)
      (.render scope text) journal.renewed := Performs.render scope text journal.renewed
  rcases result : (engine.render scope text).on journal with ⟨outcome, after⟩
  rw [result] at run
  have renewed : Run engine (.render scope text) journal.renewed spans outcome after := by
    cases run with
    | inner inside => omega
    | finished _ expansion finalized => exact .finished outermost expansion finalized
    | unfinished _ expansion => exact .unfinished outermost expansion
  exact (again.on_eq renewed).symm

/-- After any calls an outermost rendering gives what it gives on a renderer that has
done nothing yet and whose identifiers go on from the same word: the same outcome and
the same journal, its reports behind the earlier ones. -/
theorem render_of_history
    (calls : List Call)
    (scope : Scope)
    (text : Text) :
    let journal := engine.journalAfter calls {}
    let onFresh := (engine.render scope text).on
      (.fresh journal.placeholders.drawn)
    journal.depth = 0 ∧
      (engine.render scope text).on journal =
        (onFresh.1, onFresh.2.preceded journal.diagnostics) := by
  intro journal onFresh
  have outermost : journal.depth = 0 := engine.depth_journalAfter calls rfl
  refine ⟨outermost, ?_⟩
  obtain ⟨spans, run⟩ : Performs engine (engine.render scope text)
      (.render scope text) (Journal.fresh journal.placeholders.drawn).renewed :=
    Performs.render scope text _
  rw [← engine.on_render_renewed scope text rfl] at run
  have performed : Performs engine (engine.render scope text)
      (.render scope text) journal.renewed := Performs.render scope text _
  have behind := run.preceded journal.diagnostics
  rw [← Journal.renewed_of_outermost outermost] at behind
  rw [engine.on_render_renewed scope text outermost]
  exact performed.on_eq behind

end Engine
end CharacterSheet
