import CharacterSheet.Pattern.Linear
import CharacterSheet.Proofs.Markup.Typography
import CharacterSheet.Proofs.Rendering.Existence
import CharacterSheet.Proofs.Rendering.Substitution

/-!
# Finished documents

A document that a rendering gives is finished (`Engine.Finished`): there is no
notation left in it and no token, it is typeset, and its tags nest. Rendering it
again has nothing to do, so a finished document is a fixed point of the renderer,
whatever the scope and its policy (`Finished.on_render`).

That documents come out finished needs that the tooltips are framed, which the
built-in handlers see to. Putting framed tooltips in place leaves no token, and
typography can make neither notation nor tokens.
-/

namespace CharacterSheet
namespace Engine

variable (engine : Engine)

/-- A document in which a renderer finds nothing left to do. -/
structure Finished (html : Text) : Prop where
  expanded : ¬ spanOpener <:+: html
  settled : engine.config.preservePlaceholders = false → ¬ TokenPart.opener <:+: html
  typeset : engine.typeset html = html
  valid : Markup.validate none html = .ok ()

/-- A text without notation whose tags nest. -/
structure Clean (html : Text) : Prop where
  expanded : ¬ spanOpener <:+: html
  valid : Markup.validate none html = .ok ()

variable {engine}

theorem retouched_typeset (text : Text) : Markup.Retouched text (engine.typeset text) := by
  unfold typeset
  split
  · exact Markup.retouched_normalize text
  · exact .refl text

theorem typeset_typeset (text : Text) :
    engine.typeset (engine.typeset text) = engine.typeset text := by
  unfold typeset
  split
  · exact Markup.normalize_idempotent text
  · rfl

/-- A document holds no notation, and its tags nest. -/
theorem clean_of_document
    {placeholders : Placeholders}
    {text html : Text}
    (made : engine.document placeholders text = .ok html) :
    Clean html := by
  obtain ⟨settled, -, clear, rfl, valid⟩ := engine.document_eq_ok_iff.1 made
  refine ⟨fun occurs => clear ?_, valid⟩
  exact (retouched_typeset settled).occurs_already (by decide) (by decide) occurs

/-- A document in which framed tooltips were put in place is finished. -/
theorem finished_of_document
    {placeholders : Placeholders}
    {text html : Text}
    (framed : placeholders.Holds Framed)
    (made : engine.document placeholders text = .ok html) :
    engine.Finished html := by
  obtain ⟨settled, put, -, rfl, valid⟩ := engine.document_eq_ok_iff.1 made
  have retouched : Markup.Retouched settled (engine.typeset settled) :=
    retouched_typeset settled
  refine ⟨(clean_of_document made).expanded, ?_, typeset_typeset settled, valid⟩
  intro placed occurs
  have token : TokenPart.opener <:+: settled :=
    retouched.occurs_already (by decide) (by decide) occurs
  rw [engine.settled_eq_ok_iff placed] at put
  exact (Placeholders.clear_of_substituteWithin framed put).1 token

namespace Finished

/-- Making a document of a finished one gives it back. -/
theorem document
    {html : Text}
    (finished : engine.Finished html)
    (placeholders : Placeholders) :
    engine.document placeholders html = .ok html := by
  have settled : engine.settled placeholders html = .ok html := by
    unfold Engine.settled
    cases placed : engine.config.preservePlaceholders with
    | true => rfl
    | false =>
        rw [placeholders.substitute_of_clear (finished.settled placed)]
        rfl
  exact engine.document_eq_ok_iff.2
    ⟨html, settled, finished.expanded, finished.typeset.symm, finished.valid⟩

/-- A finished document is a fixed point, whatever the scope and its policy. -/
theorem on_render
    {html : Text}
    (finished : engine.Finished html)
    (scope : Scope)
    {journal : Journal}
    (outermost : journal.depth = 0) :
    (engine.render scope html).on journal = (.ok html, journal.renewed) := by
  have performed : Performs engine (engine.render scope html)
      (.render scope html) journal := Performs.render scope html journal
  refine performed.on_eq (.finished outermost (Run.expand_plain finished.expanded) ?_)
  have nothing : engine.noted journal.renewed = journal.renewed := by
    simp [noted, Journal.renewed, Placeholders.clear]
  rw [engine.on_finalize, finished.document, nothing]

end Finished

/-- What an outermost rendering gives is clean, whatever the handlers. -/
theorem clean_of_render
    {scope : Scope}
    {text html : Text}
    {journal after : Journal}
    (outermost : journal.depth = 0)
    (rendered : (engine.render scope text).on journal = (.ok html, after)) :
    Clean html := by
  obtain ⟨spans, run⟩ : Performs engine (engine.render scope text)
      (.render scope text) journal := Performs.render scope text journal
  rw [rendered] at run
  cases run with
  | inner inside => omega
  | finished _ expansion finalized =>
      rw [engine.on_finalize] at finalized
      exact clean_of_document (Prod.mk.inj finalized).1

/-- What an outermost rendering gives is finished. -/
theorem finished_of_render
    (framed : engine.registry.Keeps Framed)
    {scope : Scope}
    {text html : Text}
    {journal after : Journal}
    (outermost : journal.depth = 0)
    (rendered : (engine.render scope text).on journal = (.ok html, after)) :
    engine.Finished html ∧ after.depth = 0 := by
  obtain ⟨spans, run⟩ : Performs engine (engine.render scope text)
      (.render scope text) journal := Performs.render scope text journal
  rw [rendered] at run
  cases run with
  | inner inside => omega
  | finished _ expansion finalized =>
      rw [engine.on_finalize] at finalized
      obtain ⟨made, rfl⟩ := Prod.mk.inj finalized
      have kept := expansion.keeps framed trivial (Placeholders.holds_clear journal.placeholders)
      refine ⟨finished_of_document kept made, ?_⟩
      rw [engine.noted_depth, expansion.growth_of_expand.depth_eq]
      exact outermost

/-- With the built-in handlers, and others that ask for no tooltips, a rendered
document is a fixed point: rendered again it stays as it is, whatever the scope
and its policy. -/
theorem render_of_rendered
    {extra : List Handler}
    (handlers : engine.registry = Registry.builtin.registerAll extra)
    (quiet : ∀ handler ∈ extra, handler.Quiet)
    (scope : Scope)
    (text : Text)
    {html : Text}
    {journal after : Journal}
    (outermost : journal.depth = 0)
    (rendered : (engine.render scope text).on journal = (.ok html, after)) :
    ∀ otherScope,
      (engine.render otherScope html).on after = (.ok html, after.renewed) := by
  have framed : engine.registry.Keeps Framed := by
    rw [handlers]
    exact Registry.keeps_builtin.registerAll fun handler member => (quiet handler member).keeps
  obtain ⟨finished, stillOutermost⟩ := finished_of_render framed outermost rendered
  intro otherScope
  exact finished.on_render otherScope stillOutermost

/-- A handler whose result is two hyphens. -/
def hyphens : Handler where
  name := "HYPHENS"
  least := 0
  most? := none
  run _ _ _ := .done (.string "--")

/-- A document with a line break, a dash and a minus sign, rendered under a strict
policy and again under a lenient one. -/
theorem render_of_rendered_of_hyphens :
    let engine : Engine :=
      { config := {}
        registry := Registry.builtin.registerAll [hyphens]
        rules := ⟨[]⟩
        patterns := .linear
        words := .counting 0 }
    let scope : Scope := { character := .object [] }
    (engine.render (scope.under { strict := false }) "<br>—a −1".toList).on { expansions := 2 } =
      (.ok "<br>—a −1".toList, {}) := by
  intro engine scope
  have rendered : (engine.render scope "{{BR}}{{HYPHENS:}}a -1".toList).on {} =
        (.ok "<br>—a −1".toList, { expansions := 2 }) := by rfl
  have quiet : ∀ handler ∈ [hyphens], handler.Quiet := by
    intro handler member
    obtain rfl := List.mem_singleton.1 member
    exact fun _ _ _ => trivial
  exact engine.render_of_rendered rfl quiet scope _ rfl rendered _

end Engine
end CharacterSheet
