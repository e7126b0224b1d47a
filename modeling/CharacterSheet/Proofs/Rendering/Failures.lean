import CharacterSheet.Proofs.Handler.Orderly
import CharacterSheet.Proofs.Rendering.Leniency
import Mathlib.Control.Monad.Basic
import CharacterSheet.Pattern.Linear

/-!
# What a lenient rendering fails with

A lenient policy shows what may be shown. With orderly handlers that is everything but
a span without a closer, so an expansion fails only with such a span or with the limit
(`Run.escapes_of_expand`), at every level of nesting. A rendering outside of every
expansion fails besides only while its document is made (`Engine.render_failures`).
-/

namespace CharacterSheet

/-- Finding a span fails only for want of a closer. -/
theorem Span.eq_unterminated_of_find
    {text : Text}
    {fault : Fault}
    (failed : find text = .error fault) :
    ∃ start, fault = .unterminated start := by
  unfold find at failed
  split at failed
  · cases failed
  · split at failed
    · cases failed
    · cases failed
      exact ⟨_, rfl⟩

namespace Engine

variable (engine : Engine)

/-- The faults that end an expansion also where all faults are shown that may be: of a
span without a closer, and of the limit. -/
inductive Escapes : Fault → Prop
  | unterminated (start : String) : Escapes (.unterminated start)
  | overrun : Escapes engine.overrun

/-- Why no document can be made of an expanded text: something in it is out of place, or
the tags of the whole document are wrong. -/
inductive Unmade (placeholders : Placeholders) (text : Text) : Fault → Prop
  | assembly (cause : AssemblyError) : Unmade placeholders text (.assembly cause)
  | markup
      {settled : Text}
      {cause : MarkupError}
      (settles : engine.settled placeholders text = .ok settled)
      (invalid : Markup.validate none (engine.typeset settled) = .error cause) :
      Unmade placeholders text (.markup cause)

variable {engine}

/-- An orderly script does nothing of its own with a fault that ends expansions. -/
theorem Escapes.not_unresolved
    {fault : Fault}
    (escapes : engine.Escapes fault) :
    fault.isUnresolved = false := by
  cases escapes <;> rfl

theorem escapes_of_countExpansion
    {journal after : Journal}
    {fault : Fault}
    (counted : engine.countExpansion.on journal = (.error fault, after)) :
    engine.Escapes fault := by
  obtain ⟨-, rfl, -⟩ := engine.on_countExpansion_error counted
  exact .overrun

theorem orderly_spanScript
    {kept : Text → Prop}
    (orderly : engine.registry.Orderly kept)
    (scope : Scope)
    (inner : Text) :
    (engine.spanScript scope inner).Orderly kept := by
  refine engine.spanScript_of_handlers (fun _ => trivial)
    (fun _ recoverable => recoverable) ?_ inner
  intro name handler content found
  exact (Registry.holds_of_find? orderly found engine.setting scope content).map resultText

theorem assembly_of_checkNoNotation
    {text : Text}
    {fault : Fault}
    (failed : checkNoNotation text = .error fault) :
    ∃ cause, fault = .assembly cause := by
  unfold checkNoNotation at failed
  split at failed
  · cases failed
  · cases failed
    exact ⟨_, rfl⟩

/-- A document that is not made fails for one of the two reasons. -/
theorem unmade_of_document
    {placeholders : Placeholders}
    {text : Text}
    {fault : Fault}
    (failed : engine.document placeholders text = .error fault) :
    engine.Unmade placeholders text fault := by
  unfold document at failed
  split at failed
  · next unsettled =>
      cases failed
      obtain ⟨cause, -, rfl⟩ := engine.substitute_of_settled_eq_error unsettled
      exact .assembly cause
  · next settles =>
      split at failed
      · next left =>
          cases failed
          obtain ⟨cause, rfl⟩ := assembly_of_checkNoNotation left
          exact .assembly cause
      · split at failed
        · next invalid =>
            cases failed
            exact .markup settles invalid
        · cases failed

end Engine

namespace Job

/-- A job whose own script is orderly. -/
def Orderly (kept : Text → Prop) : Job → Prop
  | .script steps => steps.Orderly kept
  | _ => True

/-- The faults that a job inside an expansion may fail with where all faults are shown
that may be. -/
def MayFail (engine : Engine) (fault : Fault) : Job → Prop
  | .scan _ _ _ _ _ | .expand _ _ | .render _ _ => engine.Escapes fault
  | .span _ _ _ _ => ∃ start, fault = .unterminated start
  | .script _ => fault.isRecoverable = true ∨ ∃ start, fault = .unterminated start

end Job

/-- A script may fail with what escapes. -/
theorem Engine.Escapes.mayFail_script
    {engine : Engine}
    {fault : Fault}
    (escapes : engine.Escapes fault)
    (steps : Script Text) :
    (Job.script steps).MayFail engine fault := by
  cases escapes with
  | unterminated start => exact .inr ⟨start, rfl⟩
  | overrun => exact .inl rfl

namespace Run

variable {engine : Engine} {kept : Text → Prop}

/-- Once a request failed with what escapes, an orderly script fails with the same fault
at once. -/
theorem ends_of_escapes
    (scope : Scope)
    (text : Text)
    {next : Except Fault Text → Script Text}
    {fault : Fault}
    {between after : Journal}
    {spans : Nat}
    {outcome : Except Fault Text}
    (orderly : (Script.expand scope text next).Orderly kept)
    (escapes : engine.Escapes fault)
    (rest : Run engine (.script (next (.error fault))) between spans outcome after) :
    spans = 0 ∧ outcome = .error fault ∧ after = between := by
  rw [Script.Orderly.rethrows scope text orderly escapes.not_unresolved] at rest
  cases rest
  exact ⟨rfl, rfl, rfl⟩

/-- Inside an expansion a lenient run with orderly and neutral handlers fails only with what
may escape its job. -/
theorem mayFail
    {policy : Policy}
    {job : Job}
    {journal after : Journal}
    {spans : Nat}
    {outcome : Except Fault Text}
    (handlers : engine.registry.Orderly kept)
    (neutral : engine.registry.Neutral)
    (lenient : policy.strict = false)
    (run : Run engine job journal spans outcome after)
    (inside : 0 < journal.depth)
    (orderly : job.Orderly kept)
    (stays : job.StaysUnder policy) :
    ∀ fault, outcome = .error fault → job.MayFail engine fault := by
  induction run with
  | unterminated found =>
      rintro _ ⟨⟩
      obtain ⟨start, rfl⟩ := Span.eq_unterminated_of_find found
      exact .unterminated start
  | clear | evaluated | done => rintro _ ⟨⟩
  | overrun found counted =>
      rintro _ ⟨⟩
      exact Engine.escapes_of_countExpansion counted
  | stopped found within failed inductionHypothesis =>
      have growth := engine.extends_of_countExpansion within
      rintro fault ⟨⟩
      obtain ⟨start, rfl⟩ := inductionHypothesis (growth.depth_pos inside) trivial stays _ rfl
      exact .unterminated start
  | @replaced _ _ _ _ _ _ _ _ _ outcome _ _ _ _ found within evaluated rest _ restHypothesis =>
      have growth := engine.extends_of_countExpansion within
      have spanGrowth := growth.trans (evaluated.growth (growth.depth_pos inside))
      intro fault failed
      cases outcome with
      | ok text => cases failed
      | error other =>
          cases failed
          exact restHypothesis (spanGrowth.depth_pos inside) trivial stays _ rfl
  | marked followed shows shown inductionHypothesis =>
      rw [Engine.on_showFault] at shown
      obtain ⟨rfl, -⟩ := Prod.mk.inj shown
      rintro _ ⟨⟩
  | aborted followed hides inductionHypothesis =>
      rintro fault ⟨⟩
      cases stays
      rcases inductionHypothesis inside (Engine.orderly_spanScript handlers _ _)
          (Engine.staysUnder_spanScript neutral _ _) _ rfl with recoverable | unterminated
      · rw [Policy.shows, lenient, recoverable] at hides
        cases hides
      · exact unterminated
  | fail =>
      rintro fault ⟨⟩
      exact .inl orderly
  | @expandRequest scope text _ _ _ answer _ _ _ _ answered rest answerHypothesis restHypothesis
  | @renderRequest scope text _ _ _ answer _ _ _ _ answered rest answerHypothesis restHypothesis =>
      have growth := answered.growth inside
      cases answer with
      | ok result => exact restHypothesis (growth.depth_pos inside) (orderly.1 result) (stays.2 _)
      | error fault =>
          -- what escapes is never unresolved, so no handler goes on after it
          have escapes := answerHypothesis inside trivial stays.1 fault rfl
          obtain ⟨-, rfl, -⟩ := ends_of_escapes scope text orderly escapes rest
          rintro _ ⟨⟩
          exact escapes.mayFail_script _
  | drawRequest drawn rest inductionHypothesis =>
      have growth := engine.extends_of_draw drawn
      exact inductionHypothesis (growth.depth_pos inside) (orderly _) (stays.2 _)
  | tooltipRequest kept rest inductionHypothesis =>
      have growth := engine.extends_of_registerTooltip kept
      exact inductionHypothesis (growth.depth_pos inside) (orderly.2 _) (stays.2 _)
  | reportRequest rest inductionHypothesis => exact inductionHypothesis inside orderly stays.2
  | nested scanned inductionHypothesis => exact inductionHypothesis (Nat.succ_pos _) trivial stays
  | inner within expanded inductionHypothesis => exact inductionHypothesis inside trivial stays
  | finished outermost | unfinished outermost =>
      rw [outermost] at inside
      exact absurd inside (Nat.lt_irrefl 0)

/-- A lenient expansion with the built-in handlers fails only with what escapes. -/
theorem escapes_of_expand
    {scope : Scope}
    {text : Text}
    {journal after : Journal}
    {spans : Nat}
    {fault : Fault}
    (builtin : engine.registry = .builtin)
    (lenient : scope.policy.strict = false)
    (run : Run engine (.expand scope text) journal spans (.error fault) after) :
    engine.Escapes fault := by
  have handlers : engine.registry.Orderly Framed := builtin ▸ Registry.orderly_builtin
  have neutral : engine.registry.Neutral := builtin ▸ Registry.neutral_builtin
  cases run with
  | nested scanned =>
      exact scanned.mayFail handlers neutral lenient (Nat.succ_pos _) trivial rfl fault rfl

end Run

namespace Engine

variable (engine : Engine)

/-- With the built-in handlers a lenient expansion fails only with a span without a
closer or with the limit. A rendering outside of every expansion fails besides only
where its text was expanded and no document can be made of that. -/
theorem render_failures
    (builtin : engine.registry = .builtin)
    (scope : Scope)
    (text : Text)
    (journal : Journal)
    (fault : Fault) :
    (((engine.expand scope.leniently text).on journal).1 = .error fault →
      engine.Escapes fault) ∧
    (((engine.render scope.leniently text).on journal).1 = .error fault →
      engine.Escapes fault ∨
        journal.depth = 0 ∧ ∃ expanded between,
          (engine.expand scope.leniently text).on journal.renewed = (.ok expanded, between) ∧
          engine.Unmade between.placeholders expanded fault) := by
  have lenient : scope.leniently.policy.strict = false := rfl
  constructor
  · intro failed
    obtain ⟨spans, run⟩ : Performs engine (engine.expand scope.leniently text)
        (.expand scope.leniently text) journal := Performs.expand scope.leniently text journal
    rw [failed] at run
    exact run.escapes_of_expand builtin lenient
  · intro failed
    obtain ⟨spans, run⟩ : Performs engine (engine.render scope.leniently text)
        (.render scope.leniently text) journal := Performs.render scope.leniently text journal
    rw [failed] at run
    cases run with
    | inner inside expanded => exact .inl (expanded.escapes_of_expand builtin lenient)
    | unfinished outermost expansion =>
        exact .inl (expansion.escapes_of_expand builtin lenient)
    | finished outermost expansion finalized =>
        have performed : Performs engine (engine.expand scope.leniently text)
            (.expand scope.leniently text) journal.renewed :=
          Performs.expand scope.leniently text journal.renewed
        rw [engine.on_finalize] at finalized
        obtain ⟨unmade, -⟩ := Prod.mk.inj finalized
        exact .inr ⟨outermost, _, _, performed.on_eq expansion, unmade_of_document unmade⟩

/-- A call of an unknown handler is shown in place, and then the tag behind it is never
closed. -/
theorem render_failures_of_open_tag :
    let engine : Engine :=
      { config := {}
        registry := .builtin
        rules := ⟨[]⟩
        patterns := .linear
        words := .counting 0 }
    let scope : Scope :=
      { character := .object [], policy := { location? := some ⟨"page", 1⟩ } }
    let text : Text := "\x7b\x7bNOPE:x\x7d\x7d<p>".toList
    ((engine.render scope.leniently text).on {}).1 = .error (.markup (.neverClosed "p")) ∧
      ∃ expanded between,
        (engine.expand scope.leniently text).on {} = (.ok expanded, between) ∧
        engine.Unmade between.placeholders expanded (.markup (.neverClosed "p")) := by
  intro engine scope text
  have failed : ((engine.render scope.leniently text).on {}).1 =
      .error (.markup (.neverClosed "p")) := by decide +kernel
  rcases (engine.render_failures rfl scope text {} _).2 failed with escapes | ⟨-, unmade⟩
  · cases escapes
  · exact ⟨failed, unmade⟩

end Engine
end CharacterSheet
