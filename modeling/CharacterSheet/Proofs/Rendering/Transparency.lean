import CharacterSheet.Pattern.Linear
import CharacterSheet.Proofs.Notation.Call
import CharacterSheet.Proofs.Rendering.Document
import CharacterSheet.Proofs.Rendering.Failures
import CharacterSheet.Proofs.Rendering.Headroom
import CharacterSheet.Proofs.Rendering.Rescan

/-!
# Rendering inside a rendering

A handler that renders its content leaves no trace but one more span. Its rendering
stands inside another one, so it only expands: it keeps the tooltips and the count of the
outer one and makes no document. What it gives holds no notation, so the outer scan has
nothing left to do, and a fault that it could not show cannot be shown outside either
(`Run.not_shows_of_expand`).

So a text in which such a handler is called on a content is rendered as the content
alone (`Engine.render_echo`), to the same outcome and from the same journal to the same
one, if the limit leaves room for the one span more.
-/

namespace CharacterSheet

namespace Handler

/-- A handler that renders its content. -/
def Echoes (handler : Handler) : Prop :=
  ∀ setting scope content,
    handler.run setting scope content = Value.ofText <$> Script.rendered scope content

/-- The handler that renders any content. -/
def echo : Handler where
  name := "ECHO"
  least := 0
  most? := none
  run _ scope content := Value.ofText <$> Script.rendered scope content

theorem echoes_echo : echo.Echoes := fun _ _ _ => rfl

end Handler

/-- The notation that calls a handler on a content. -/
def callText (name content : Text) : Text := spanOpener ++ (name ++ ':' :: content) ++ spanCloser

/-- The span that a call covers. -/
def callSpan (name content : Text) : Span := ⟨[], name ++ ':' :: content, []⟩

namespace Engine

variable (engine : Engine)

theorem spanScript_of_echoes
    {handler : Handler}
    {name content : Text}
    (echoes : handler.Echoes)
    (known : engine.registry.find? (String.ofList name) = some handler)
    (accepted : handler.accepts (Arguments.count content) = true)
    (isName : Operation.IsName name)
    (unpadded : Text.trimEnd content = content)
    (scope : Scope) :
    engine.spanScript scope (name ++ ':' :: content) = Script.rendered scope content := by
  rw [engine.spanScript_of_accepted (Operation.ofInner_call isName unpadded) known accepted,
    echoes]
  change Script.render scope content _ = Script.render scope content _
  congr 1
  funext answer
  cases answer with
  | error fault => rfl
  | ok text =>
      change Script.done (resultText (Value.ofText text)) = Script.done text
      exact congrArg Script.done String.toList_ofList

theorem noted_advanced (journal : Journal) (levels spans : Nat) :
    engine.noted (journal.advanced levels spans) =
      (engine.noted journal).advanced levels spans := by
  change (if engine.config.preservePlaceholders ∧ 0 < journal.placeholders.entries.length then
      _ else _) = _
  unfold noted
  split <;> rfl

end Engine

namespace Run

variable {engine : Engine}

/-- A fault that ends a scan within the limit is one that is not shown. -/
theorem not_shows_of_scan
    {scope : Scope}
    {template : Text}
    {origins : Origins}
    {start : Nat}
    {text : Text}
    {journal after : Journal}
    {spans : Nat}
    {fault : Fault}
    (run : Run engine (.scan scope template origins start text)
      journal spans (.error fault) after)
    (within : after.expansions ≤ engine.config.maxExpansions) :
    scope.policy.shows fault = false := by
  generalize sameJob : Job.scan scope template origins start text = job at run
  generalize sameOutcome : Except.error fault = outcome at run
  induction run generalizing scope template origins start text with
  | unterminated found =>
      cases sameOutcome
      obtain ⟨start, rfl⟩ := Span.eq_unterminated_of_find found
      exact Bool.and_false _
  | overrun found counted =>
      obtain ⟨full, -, rfl⟩ := engine.on_countExpansion_error counted
      exact absurd within (Nat.not_le.2 (Nat.lt_succ_of_le full))
  | stopped found count failed =>
      cases sameJob
      cases sameOutcome
      cases failed with
      | aborted followed hides => exact hides
      | marked followed shows shown =>
          rw [Engine.on_showFault] at shown
          cases shown
  | @replaced _ _ _ _ _ _ _ _ _ outcome _ _ _ _ _ _ _ _ _ restHypothesis =>
      cases outcome with
      | ok text => cases sameOutcome
      | error other =>
          cases sameJob
          cases sameOutcome
          exact restHypothesis within rfl rfl
  | _ => cases sameJob <;> cases sameOutcome

/-- A fault that ends an expansion within the limit is one that is not shown. -/
theorem not_shows_of_expand
    {scope : Scope}
    {text : Text}
    {journal after : Journal}
    {spans : Nat}
    {fault : Fault}
    (run : Run engine (.expand scope text) journal spans (.error fault) after)
    (within : after.expansions ≤ engine.config.maxExpansions) :
    scope.policy.shows fault = false := by
  cases run with
  | nested scanned => exact scanned.not_shows_of_scan within

/-- The script that only renders a text does what the rendering does. -/
theorem rendered
    {scope : Scope}
    {text : Text}
    {journal after : Journal}
    {spans : Nat}
    {outcome : Except Fault Text}
    (run : Run engine (.render scope text) journal spans outcome after) :
    Run engine (.script (Script.rendered scope text)) journal spans outcome after := by
  have ends : Run engine (.script (Script.ofExcept outcome)) after 0 outcome after := by
    cases outcome with
    | error fault => exact .fail
    | ok result => exact .done
  exact .renderRequest run ends

/-- A call that renders its content is expanded as the content, with one more span. -/
theorem echo_of_expand
    {scope : Scope}
    {name content : Text}
    {journal after : Journal}
    {spans : Nat}
    {outcome : Except Fault Text}
    (echoes : engine.spanScript scope (name ++ ':' :: content) = Script.rendered scope content)
    (covers : Span.find (callText name content) = .ok (some (callSpan name content)))
    (run : Run engine (.expand scope content) journal spans outcome after)
    (room : after.expansions < engine.config.maxExpansions) :
    Run engine (.expand scope (callText name content)) journal
      (spans + 1) outcome (after.advanced 0 1) := by
  have growth := run.growth_of_expand
  have counts := growth.expansions_le
  -- inside the call, the content is expanded one level deeper and one span later
  have expanded : Run engine (.expand scope content) (journal.advanced 1 1)
      spans outcome (after.advanced 1 1) :=
    run.advanced_of_expand (fun _ _ => rfl) (Nat.le_of_lt room) room
  have counted : engine.countExpansion.on journal.deeper = (.ok (), journal.advanced 1 1) := by
    have below : ¬ engine.config.maxExpansions < journal.deeper.expansions + 1 := by
      change ¬ engine.config.maxExpansions < journal.expansions + 1
      omega
    rw [Engine.on_countExpansion, if_neg below]
    rfl
  have followed : Run engine (.script (engine.spanScript scope (name ++ ':' :: content)))
      (journal.advanced 1 1) spans outcome (after.advanced 1 1) := by
    rw [echoes]
    exact rendered (.inner (Nat.succ_pos _) expanded)
  have left : (after.advanced 1 1).shallower = after.advanced 0 1 := rfl
  rw [← left]
  refine .nested ?_
  cases outcome with
  | ok shown =>
      -- nothing is left to expand in what the call gave
      have clear : Span.find (shown ++ []) = .ok none := by
        rw [List.append_nil, Span.find_eq_none_iff]
        exact run.clear_of_expand
      have scanned : Run engine
          (.scan scope (callText name content) {} 0 (callText name content)) journal.deeper
          (spans + 1 + 0) ((Except.ok (shown ++ [])).map ([] ++ ·)) (after.advanced 1 1) :=
        .replaced covers counted (.evaluated followed) (.clear clear)
      simpa [Except.map] using scanned
  | error fault =>
      have hides := run.not_shows_of_expand (Nat.le_of_lt room)
      exact .stopped covers counted (.aborted followed hides)

/-- A call that renders its content is rendered as the content, with one more span. -/
theorem echo_of_render
    {scope : Scope}
    {name content : Text}
    {journal after : Journal}
    {spans : Nat}
    {outcome : Except Fault Text}
    (echoes : engine.spanScript scope (name ++ ':' :: content) = Script.rendered scope content)
    (covers : Span.find (callText name content) = .ok (some (callSpan name content)))
    (run : Run engine (.render scope content) journal spans outcome after)
    (room : after.expansions < engine.config.maxExpansions) :
    Run engine (.render scope (callText name content)) journal
      (spans + 1) outcome (after.advanced 0 1) := by
  cases run with
  | inner inside expanded => exact .inner inside (expanded.echo_of_expand echoes covers room)
  | unfinished outermost expansion =>
      exact .unfinished outermost (expansion.echo_of_expand echoes covers room)
  | finished outermost expansion finalized =>
      rw [Engine.on_finalize] at finalized
      cases finalized
      rw [Engine.noted_expansions] at room
      refine .finished outermost (expansion.echo_of_expand echoes covers room) ?_
      rw [Engine.on_finalize, Engine.noted_advanced]
      rfl

end Run

namespace Engine

/-- Where a handler renders its content, a text that is one call of it is rendered as the
content: to the same document or fault, with the same tooltips, identifiers and reports.
Only the count is one higher, and the limit has to leave room for that. So also inside
other expansions, and under every policy. -/
theorem render_echo
    (engine : Engine)
    (scope : Scope)
    {handler : Handler}
    {name content : Text}
    {journal after : Journal}
    {outcome : Except Fault Text}
    (echoes : handler.Echoes)
    (isName : Operation.IsName name)
    (known : engine.registry.find? (String.ofList name) = some handler)
    (accepted : handler.accepts (Arguments.count content) = true)
    (unpadded : Text.trimEnd content = content)
    (covers : Span.find (callText name content) = .ok (some (callSpan name content)))
    (rendered : (engine.render scope content).on journal = (outcome, after))
    (room : after.expansions < engine.config.maxExpansions) :
    (engine.render scope (callText name content)).on journal =
      (outcome, { after with expansions := after.expansions + 1 }) := by
  have performs (text : Text) : Performs engine
      (engine.render scope text) (.render scope text) journal :=
    Performs.render scope text journal
  obtain ⟨spans, run⟩ := performs content
  rw [rendered] at run
  have script := engine.spanScript_of_echoes echoes known accepted isName unpadded scope
  exact (performs (callText name content)).on_eq (run.echo_of_render script covers room)

/-- A renderer that knows the echoing handler. -/
def echoing : Engine where
  config := {}
  registry := Registry.builtin.register Handler.echo
  rules := ⟨[]⟩
  patterns := .linear
  words := .counting 0

/-- A tooltip inside a call is put in place once, with the identifier that it has without
the call. -/
theorem render_echo_of_tooltip :
    let scope : Scope := { character := .object [] }
    let content : Text := "\x7b\x7bTOOLTIP:cat,a\x7b\x7bBR\x7d\x7db\x7d\x7d--".toList
    ∃ html after,
      (echoing.render scope content).on {} = (.ok html, after) ∧
        (echoing.render scope (callText "ECHO".toList content)).on {} =
          (.ok html, { after with expansions := after.expansions + 1 }) := by
  intro scope content
  have isName : Operation.IsName "ECHO".toList := ⟨by decide, List.all_eq_true.1 (by decide)⟩
  have known : echoing.registry.find? (String.ofList "ECHO".toList) = some .echo := rfl
  have accepted : Handler.echo.accepts (Arguments.count content) = true := by decide +kernel
  have unpadded : Text.trimEnd content = content := by decide +kernel
  have covers : Span.find (callText "ECHO".toList content) =
      .ok (some (callSpan "ECHO".toList content)) := rfl
  have succeeds : ((echoing.render scope content).on {}).1.isOk = true := by
    decide +kernel
  have room : ((echoing.render scope content).on {}).2.expansions <
      echoing.config.maxExpansions := by
    decide +kernel
  rcases rendered : (echoing.render scope content).on {} with ⟨outcome, after⟩
  rw [rendered] at succeeds room
  cases outcome with
  | error fault => cases succeeds
  | ok html =>
      exact ⟨html, after, rfl, echoing.render_echo scope Handler.echoes_echo
        isName known accepted unpadded covers rendered room⟩

end Engine
end CharacterSheet
