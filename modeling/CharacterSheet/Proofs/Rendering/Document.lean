import CharacterSheet.Proofs.Notation.Span
import CharacterSheet.Proofs.Rendering.Action

/-!
# Documents

What an outermost rendering makes of an expanded text depends only on the
configuration and the tooltips that were kept aside. `Engine.document` says so
without the steps (`Engine.on_finalize`): tooltips are put in place, then the
text is typeset and checked.
-/

namespace CharacterSheet
namespace Engine

variable (engine : Engine)

/-- An expanded text with its tooltips in place, unless they are to stay. -/
def settled (placeholders : Placeholders) (text : Text) : Except Fault Text :=
  if engine.config.preservePlaceholders then .ok text
  else (placeholders.substitute text).mapError Fault.assembly

/-- Tooltips that are put in place are substituted. -/
theorem settled_eq_ok_iff
    {placeholders : Placeholders}
    {text filled : Text}
    (placed : engine.config.preservePlaceholders = false) :
    engine.settled placeholders text = .ok filled ↔ placeholders.substitute text = .ok filled := by
  have fills : engine.settled placeholders text =
      (placeholders.substitute text).mapError Fault.assembly := by
    rw [settled, placed]
    rfl
  rw [fills]
  cases placeholders.substitute text with
  | ok text =>
      change Except.ok text = Except.ok filled ↔ _
      rw [Except.ok.injEq, Except.ok.injEq]
  | error cause => exact ⟨nofun, nofun⟩

/-- Putting tooltips in place fails with what their substitution fails with. -/
theorem substitute_of_settled_eq_error
    {placeholders : Placeholders}
    {text : Text}
    {fault : Fault}
    (failed : engine.settled placeholders text = .error fault) :
    ∃ cause, placeholders.substitute text = .error cause ∧ fault = .assembly cause := by
  unfold settled at failed
  split at failed
  · cases failed
  · cases substituted : placeholders.substitute text with
    | ok filled =>
        rw [substituted] at failed
        cases failed
    | error cause =>
        rw [substituted] at failed
        cases failed
        exact ⟨cause, rfl, rfl⟩

/-- A text with dashes and minus signs, if they are asked for. -/
def typeset (text : Text) : Text :=
  if engine.config.typography then Markup.normalize text else text

/-- The document of an expanded text. -/
def document (placeholders : Placeholders) (text : Text) : Except Fault Text :=
  match engine.settled placeholders text with
  | .error fault => .error fault
  | .ok settled =>
      match checkNoNotation settled with
      | .error fault => .error fault
      | .ok () =>
          match Markup.validate none (engine.typeset settled) with
          | .error cause => .error (.markup cause)
          | .ok () => .ok (engine.typeset settled)

/-- The journal in which the tooltips are reported that stay in a document. -/
def noted (journal : Journal) : Journal :=
  if engine.config.preservePlaceholders ∧ 0 < journal.placeholders.entries.length then
    { journal with
      diagnostics := journal.diagnostics.push
        { kind := .placeholderPreserved
          message :=
            s!"{journal.placeholders.entries.length} tooltip placeholder(s) left in output" } }
  else journal

@[simp] theorem noted_placeholders (journal : Journal) :
    (engine.noted journal).placeholders = journal.placeholders := by
  unfold noted
  split <;> rfl

@[simp] theorem noted_depth (journal : Journal) :
    (engine.noted journal).depth = journal.depth := by
  unfold noted
  split <;> rfl

@[simp] theorem noted_expansions (journal : Journal) :
    (engine.noted journal).expansions = journal.expansions := by
  unfold noted
  split <;> rfl

theorem on_settlePlaceholders (text : Text) (journal : Journal) :
    (engine.settlePlaceholders text).on journal =
      (engine.settled journal.placeholders text, engine.noted journal) := by
  unfold settlePlaceholders settled noted
  rw [Action.on_bind, Action.on_get]
  cases engine.config.preservePlaceholders with
  | false =>
      dsimp only
      cases journal.placeholders.substitute text with
      | error cause => simp; rfl
      | ok text => simp; rfl
  | true =>
      by_cases some : 0 < journal.placeholders.entries.length
      · simp [some, Action.on_map, Except.map]
      · simp [some]

/-- Finalizing makes the document and changes nothing but the reports. -/
theorem on_finalize (text : Text) (journal : Journal) :
    (engine.finalize text).on journal =
      (engine.document journal.placeholders text, engine.noted journal) := by
  unfold finalize document
  rw [Action.on_bind, on_settlePlaceholders]
  rcases engine.settled journal.placeholders text with fault | settled
  · rfl
  dsimp only
  rw [Action.on_bind]
  cases checkNoNotation settled with
  | error fault => rfl
  | ok _ =>
      dsimp only [finalize.liftExcept, Action.on_pure, typeset]
      cases Markup.validate none
        (if engine.config.typography then Markup.normalize settled else settled) <;> rfl

/-- A text passes the check for notation exactly if it holds no opener. -/
theorem checkNoNotation_eq_ok_iff {text : Text} :
    checkNoNotation text = .ok () ↔ ¬ spanOpener <:+: text := by
  rw [← Text.cut?_eq_none_iff]
  unfold checkNoNotation
  cases Text.cut? spanOpener text <;> simp

/-- When a text becomes a document. -/
theorem document_eq_ok_iff
    {placeholders : Placeholders}
    {text html : Text} :
    engine.document placeholders text = .ok html ↔
      ∃ settled,
        engine.settled placeholders text = .ok settled ∧
        ¬ spanOpener <:+: settled ∧
        html = engine.typeset settled ∧
        Markup.validate none html = .ok () := by
  unfold document
  cases engine.settled placeholders text with
  | error fault => simp
  | ok settled =>
      simp only [Except.ok.injEq, exists_eq_left', ← checkNoNotation_eq_ok_iff]
      cases checkNoNotation settled with
      | error fault => simp
      | ok _ =>
          cases valid : Markup.validate none (engine.typeset settled) with
          | error cause =>
              simp only [reduceCtorEq, true_and, false_iff]
              rintro ⟨rfl, other⟩
              cases valid.symm.trans other
          | ok _ =>
              simp only [Except.ok.injEq, true_and]
              constructor
              · rintro rfl
                exact ⟨rfl, valid⟩
              · rintro ⟨rfl, -⟩
                rfl

end Engine
end CharacterSheet
