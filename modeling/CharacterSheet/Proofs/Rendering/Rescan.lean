import CharacterSheet.Handler.Builtin
import CharacterSheet.Pattern.Linear
import CharacterSheet.Proofs.Notation.Span
import CharacterSheet.Proofs.Rendering.Existence

/-!
# Scanning anew

After a span is replaced the scan goes on from where the span stood. Here is the
simple loop that looks through the whole text again after every replacement, at
every level of nesting (`Engine.on_scanAnew` is its equation, without fuel), and
the proof that both are the same (`Engine.expand_eq_expandAnew`) and leave no
opener (`Run.clear_of_expand`).

What carries it is an invariant on the text that the scan has passed: no opener
stands in it, and it does not end in a brace that opens. Whatever is put behind
such a text, an opener in the whole is an opener in what was put there.
-/

namespace CharacterSheet

namespace Engine

variable (engine : Engine)

/-- Replaces the spans of a text and looks for the next one from the start of the
text after every replacement. Each evaluated span takes one unit of fuel. -/
def rescan :
    (fuel : Nat) → Scope → (template : Text) → Origins → Text → Action Text
  | 0, _, _, _, text => do
    match Span.find text with
    | .error fault => throw fault
    | .ok none => pure text
    | .ok (some _) =>
      engine.countExpansion
      throw engine.overrun
  | fuel + 1, scope, template, origins, text => do
    match Span.find text with
    | .error fault => throw fault
    | .ok none => pure text
    | .ok (some span) =>
      engine.countExpansion
      let start := Text.bytes span.before
      let answers := engine.answersBy fun scope text =>
        Action.nested (rescan fuel scope text {} text)
      let shown ← engine.replacement answers scope span template (origins.source start)
      let origins := origins.replaced start (start + Text.bytes span.whole) (Text.bytes shown)
      rescan fuel scope template origins (span.before ++ shown ++ span.after)

/-- Scans anew with what the limit leaves as the fuel. -/
def scanAnew (scope : Scope) (template : Text) (origins : Origins)
    (text : Text) : Action Text := do
  let journal ← get
  engine.rescan (engine.config.maxExpansions - journal.expansions)
    scope template origins text

/-- Expands every span of a text by scanning it anew after every replacement. -/
def expandAnew (scope : Scope) (text : Text) : Action Text :=
  Action.nested (engine.scanAnew scope text {} text)

/-- Scanning anew a text that was passed in part is to scan the rest of it. -/
theorem rescan_append
    (fuel : Nat)
    (scope : Scope)
    (template : Text)
    (origins : Origins)
    {passed : Text}
    (sealed : Passed passed)
    (text : Text) :
    engine.rescan fuel scope template origins (passed ++ text) =
      (passed ++ ·) <$>
        engine.unfold fuel scope template origins (Text.bytes passed) text := by
  induction fuel generalizing scope template origins passed text with
  | zero =>
      unfold rescan unfold
      rw [Span.find_append_left (sealed text)]
      rcases Span.find text with fault | _ | span
      · rfl
      · simp only [Except.map, Option.map_none, map_pure]
      · simp only [Except.map, Option.map_some, map_bind]
        rfl
  | succ fuel inductionHypothesis =>
      unfold rescan unfold
      rw [Span.find_append_left (sealed text)]
      rcases found : Span.find text with fault | _ | span
      · rfl
      · simp only [Except.map, Option.map_none, map_pure]
      · have sameAnswers : (fun scope text =>
              Action.nested (engine.rescan fuel scope text {} text)) =
            fun scope text =>
              Action.nested (engine.unfold fuel scope text {} 0 text) := by
          funext scope text
          have whole := inductionHypothesis scope text {} Passed.nil text
          simp only [List.nil_append, Text.bytes_nil, id_map'] at whole
          rw [whole]
        -- the next scan begins behind what this one passed, which is sealed as well
        have further : Passed (passed ++ span.before) :=
          sealed.append (Span.sealed_before found)
        simp only [Except.map, Option.map_some, map_bind, sameAnswers, Text.bytes_append]
        refine bind_congr fun _ => bind_congr fun shown => ?_
        have rest := inductionHypothesis scope template
          (origins.replaced (Text.bytes passed + Text.bytes span.before)
            (Text.bytes passed + Text.bytes span.before + Text.bytes span.whole)
            (Text.bytes shown))
          further (shown ++ span.after)
        rw [← List.append_assoc, Text.bytes_append] at rest
        refine rest.trans ?_
        simp only [map_eq_pure_bind, pure_bind, List.append_assoc]

/-- To scan a text anew is to scan it. -/
theorem on_scanAnew_append
    (scope : Scope)
    (template : Text)
    (origins : Origins)
    {passed : Text}
    (sealed : Passed passed)
    (text : Text)
    (journal : Journal) :
    (engine.scanAnew scope template origins (passed ++ text)).on journal =
      ((passed ++ ·) <$>
        engine.unfold (engine.config.maxExpansions - journal.expansions)
          scope template origins (Text.bytes passed) text).on journal := by
  unfold scanAnew
  rw [Action.on_bind, Action.on_get]
  exact congrArg (fun action : Action Text => action.on journal)
    (engine.rescan_append _ scope template origins sealed text)

/-- Going on from the place of a replaced span gives the same expansions. -/
theorem expand_eq_expandAnew (scope : Scope) (text : Text) :
    engine.expand scope text = engine.expandAnew scope text := by
  funext journal
  have whole := engine.on_scanAnew_append scope text {} Passed.nil text
    journal.deeper
  simp only [List.nil_append, Text.bytes_nil, id_map'] at whole
  exact congrArg
    (fun result : Except Fault Text × Journal => (result.1, result.2.shallower))
    whole.symm

/-- Scanning anew does what a scan does. -/
theorem performs_scanAnew
    (scope : Scope)
    (template : Text)
    (origins : Origins)
    (text : Text)
    {journal : Journal}
    (inside : 0 < journal.depth) :
    Performs engine (engine.scanAnew scope template origins text)
      (.scan scope template origins 0 text) journal := by
  obtain ⟨spans, run⟩ : Performs engine
      (engine.unfold (engine.config.maxExpansions - journal.expansions)
        scope template origins 0 text)
      (.scan scope template origins 0 text) journal :=
    Performs.unfold _ scope template origins 0 text journal ⟨inside, Nat.le_refl _⟩
  have whole := engine.on_scanAnew_append scope template origins Passed.nil text
    journal
  simp only [List.nil_append, Text.bytes_nil, id_map'] at whole
  exact Performs.of_run whole run

/-- The equation of scanning anew, in which no fuel is left: after a span is
replaced, and everything nested in it was expanded by scanning anew, the whole
text is scanned anew. -/
theorem on_scanAnew
    (scope : Scope)
    (template : Text)
    (origins : Origins)
    (text : Text)
    {journal : Journal}
    (inside : 0 < journal.depth) :
    (engine.scanAnew scope template origins text).on journal =
      Action.on (do
        match Span.find text with
        | .error fault => throw fault
        | .ok none => pure text
        | .ok (some span) =>
          engine.countExpansion
          let start := Text.bytes span.before
          let shown ← engine.replacement (engine.answersBy engine.expandAnew)
            scope span template (origins.source start)
          engine.scanAnew scope template
            (origins.replaced start (start + Text.bytes span.whole) (Text.bytes shown))
            (span.before ++ shown ++ span.after)) journal := by
  have performed := engine.performs_scanAnew scope template origins text inside
  have sameExpand : engine.expandAnew = engine.expand := by
    funext scope text
    exact (engine.expand_eq_expandAnew scope text).symm
  rw [sameExpand]
  rcases found : Span.find text with fault | _ | span
  · exact performed.on_eq (.unterminated found)
  · exact performed.on_eq (.clear found)
  rcases counted : engine.countExpansion.on journal with ⟨fault | _, between⟩
  · exact (performed.on_eq (.overrun found counted)).trans
      (Action.on_bind_of_error counted).symm
  have growth := engine.extends_of_countExpansion counted
  have followed : Performs engine _ (.script (engine.spanScript scope span.inner))
      between := Performs.script_of_expand _ between
  obtain ⟨spans, evaluated⟩ := followed.replacement template
    (origins.source (Text.bytes span.before))
  rcases replaced : (engine.replacement (engine.answersBy engine.expand) scope
      span template (origins.source (Text.bytes span.before))).on between with
    ⟨fault | shown, middle⟩
  · rw [replaced] at evaluated
    have run : Run engine (.scan scope template origins 0 text) journal
        _ (.error fault) middle :=
      .stopped found counted (by rw [Nat.zero_add]; exact evaluated)
    exact (performed.on_eq run).trans
      ((Action.on_bind_of_ok counted).trans (Action.on_bind_of_error replaced)).symm
  · rw [replaced] at evaluated
    -- scanning the whole text anew passes what stood before the span
    have insideMiddle : 0 < middle.depth :=
      (evaluated.growth (growth.depth_pos inside)).depth_pos (growth.depth_pos inside)
    obtain ⟨more, rest⟩ : Performs engine
        (engine.unfold (engine.config.maxExpansions - middle.expansions) scope template
          (origins.replaced (Text.bytes span.before)
            (Text.bytes span.before + Text.bytes span.whole) (Text.bytes shown))
          (Text.bytes span.before) (shown ++ span.after)) (.scan _ _ _ _ _) middle :=
      Performs.unfold _ scope template _ _ _ middle ⟨insideMiddle, Nat.le_refl _⟩
    have run : Run engine (.scan scope template origins 0 text) journal _ _ _ :=
      .replaced found counted (by rw [Nat.zero_add]; exact evaluated)
        (by rw [Nat.zero_add]; exact rest)
    have again := engine.on_scanAnew_append scope template
      (origins.replaced (Text.bytes span.before)
        (Text.bytes span.before + Text.bytes span.whole) (Text.bytes shown))
      (Span.sealed_before found) (shown ++ span.after) middle
    rw [← List.append_assoc] at again
    refine (performed.on_eq run).trans (Eq.symm ?_)
    refine ((Action.on_bind_of_ok counted).trans (Action.on_bind_of_ok replaced)).trans ?_
    exact again.trans (Action.on_map _ _ middle)

end Engine

namespace Run

variable {engine : Engine}

/-- A scan that succeeds leaves no opener, whatever the replacements were. -/
theorem clear_of_scan
    {scope : Scope}
    {template : Text}
    {origins : Origins}
    {start : Nat}
    {text result : Text}
    {journal after : Journal}
    {spans : Nat}
    (run : Run engine (.scan scope template origins start text)
      journal spans (.ok result) after) :
    ¬ spanOpener <:+: result := by
  generalize sameJob : Job.scan scope template origins start text = job at run
  generalize sameOutcome : Except.ok result = outcome at run
  induction run generalizing scope template origins start text result with
  | clear found =>
      cases sameJob
      cases sameOutcome
      exact Span.find_eq_none_iff.1 found
  | @replaced _ _ _ _ _ span _ _ _ outcome _ _ _ _ found _ _ _ _ restHypothesis =>
      cases outcome with
      | error fault => cases sameOutcome
      | ok rest =>
          cases sameOutcome
          have passed := Span.sealed_before found rest
          rw [spanOpener_infix_append_iff]
          rintro (before | behind | seam)
          · exact passed.clear before
          · exact restHypothesis rfl rfl behind
          · exact passed.seam seam
  | _ => cases sameJob <;> cases sameOutcome

/-- An expansion that succeeds leaves no opener. -/
theorem clear_of_expand
    {scope : Scope}
    {text result : Text}
    {journal after : Journal}
    {spans : Nat}
    (run : Run engine (.expand scope text) journal spans (.ok result) after) :
    ¬ spanOpener <:+: result := by
  cases run with
  | nested scanned => exact scanned.clear_of_scan

end Run

namespace Engine

variable (engine : Engine)

/-- Going on from the place of a replaced span loses nothing: it expands every
text as scanning anew does, with the same outcome, journal and diagnostics, and
what an expansion gives holds no opener. -/
theorem expand_resumes (scope : Scope) :
    engine.expand scope = engine.expandAnew scope ∧
      ∀ text journal result after,
        (engine.expand scope text).on journal = (.ok result, after) →
        ¬ spanOpener <:+: result := by
  refine ⟨funext (engine.expand_eq_expandAnew scope), ?_⟩
  intro text journal result after expanded
  obtain ⟨spans, run⟩ : Performs engine (engine.expand scope text)
      (.expand scope text) journal := Performs.expand scope text journal
  rw [expanded] at run
  exact run.clear_of_expand

/-- A renderer with a handler whose result is a single brace. -/
def bracing : Engine where
  config := {}
  registry := Registry.builtin.register
    { name := "OPEN"
      least := 0
      most? := none
      run := fun _ _ _ => .done (.string "\x7b") }
  rules := ⟨[]⟩
  patterns := .linear
  words := .counting 0

/-- A single brace from a handler makes an opener with the text behind it. -/
theorem expand_resumes_of_bracing :
    let scope : Scope := { character := .object [] }
    let text : Text := "\x7b\x7bOPEN:\x7d\x7d\x7bBR\x7d\x7d".toList
    (bracing.expandAnew scope text).on {} = (.ok "<br>".toList, { expansions := 2 }) ∧
      ¬ spanOpener <:+: "<br>".toList := by
  intro scope text
  have expanded : (bracing.expand scope text).on {} =
      (.ok "<br>".toList, { expansions := 2 }) := by rfl
  obtain ⟨same, clear⟩ := bracing.expand_resumes scope
  exact ⟨same ▸ expanded, clear text {} _ _ expanded⟩

end Engine
end CharacterSheet
