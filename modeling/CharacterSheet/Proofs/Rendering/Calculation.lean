import CharacterSheet.Pattern.Linear
import CharacterSheet.Proofs.Handler.Calculation
import CharacterSheet.Proofs.Rendering.Transparency

/-!
# Calculations inside calculations

A calculation touches nothing but the count of spans (`Engine.Yields`). One that stands as an
operand in another one is expanded first, so the outer one calculates with the text of the inner
amount. If that text reads back as the amount, it makes no difference whether the operand is
calculated by a call of its own or stands there in parentheses
(`Engine.render_nested_calculation`).
-/

namespace CharacterSheet

open Expression

namespace Journal

/-- The count from which a rendering goes on. An outermost one begins anew. -/
def count (journal : Journal) : Nat := if journal.depth = 0 then 0 else journal.expansions

end Journal

namespace Engine

/-- A job comes to an outcome wherever the limit leaves room for its spans, and nothing is left
of it but their count. -/
def Yields
    (engine : Engine)
    (job : Job)
    (spans : Nat)
    (outcome : Except Fault Text) : Prop :=
  ∀ journal, journal.expansions + spans ≤ engine.config.maxExpansions →
    Run engine job journal spans outcome (journal.advanced 0 spans)

/-- What a rendering gives that has expanded its text so. -/
def rendered
    (engine : Engine)
    (journal : Journal)
    (spans : Nat)
    (outcome : Except Fault Text) : Except Fault Text × Journal :=
  if 0 < journal.depth then (outcome, journal.advanced 0 spans)
  else
    match outcome with
    | .error fault => (.error fault, journal.renewed.advanced 0 spans)
    | .ok text =>
        (engine.document journal.renewed.placeholders text,
          (engine.noted journal.renewed).advanced 0 spans)

theorem rendered_succ
    (engine : Engine)
    (journal : Journal)
    (spans : Nat)
    (outcome : Except Fault Text) :
    engine.rendered journal (spans + 1) outcome =
      (engine.rendered journal spans outcome).map id (Journal.advanced 0 1) := by
  unfold rendered
  split
  · rfl
  · cases outcome <;> rfl

theorem rendered_error
    (engine : Engine)
    (journal : Journal)
    (spans : Nat)
    (fault : Fault) :
    (engine.rendered journal spans (.error fault)).1 = .error fault := by
  unfold rendered
  split <;> rfl

namespace Yields

variable {engine : Engine} {scope : Scope} {spans : Nat}

theorem ofExcept (outcome : Except Fault Text) :
    engine.Yields (.script (Script.ofExcept outcome)) 0 outcome := by
  intro journal room
  cases outcome with
  | error fault => exact .fail
  | ok text => exact .done

/-- A script that expands a text and makes something of the answer. -/
theorem expandRequest
    {text : Text}
    {answer : Except Fault Text}
    {next : Except Fault Text → Script Text}
    {result : Except Fault Text → Except Fault Text}
    (expands : engine.Yields (.expand scope text) spans answer)
    (ends : ∀ answer, next answer = Script.ofExcept (result answer)) :
    engine.Yields (.script (.expand scope text next)) spans (result answer) := by
  intro journal room
  have rest : Run engine (.script (next answer)) (journal.advanced 0 spans) 0
      (result answer) (journal.advanced 0 spans) := by
    rw [ends]
    exact ofExcept _ (journal.advanced 0 spans) room
  exact .expandRequest (expands journal room) rest

/-- A span between plain texts is replaced by what its script gives, if no brace opens there. -/
theorem around
    {before inner behind : Text}
    {outcome : Except Fault Text}
    (strict : scope.policy.strict = true)
    (plainBefore : before.IsPlain)
    (plainBehind : behind.IsPlain)
    (inside : Span.Inside inner (spanCloser ++ behind))
    (follows : engine.Yields (.script (engine.spanScript scope inner)) spans outcome)
    (plain : ∀ shown, outcome = .ok shown → shown.IsPlain) :
    engine.Yields
      (.expand scope (before ++ (spanOpener ++ inner ++ spanCloser ++ behind))) (spans + 1)
      (outcome.map fun shown => before ++ (shown ++ behind)) := by
  intro journal room
  have found := Span.find_of_inside plainBefore.brace_not_mem inside
  have counted : engine.countExpansion.on journal.deeper = (.ok (), journal.advanced 1 1) := by
    have below : ¬ engine.config.maxExpansions < journal.deeper.expansions + 1 := by
      change ¬ engine.config.maxExpansions < journal.expansions + 1
      omega
    rw [Engine.on_countExpansion, if_neg below]
    rfl
  have followed := follows (journal.advanced 1 1) (by
    rw [Journal.advanced_expansions]
    omega)
  have left : ((journal.advanced 1 1).advanced 0 spans).shallower =
      journal.advanced 0 (spans + 1) := by
    simp only [Journal.advanced, Journal.shallower, Journal.mk.injEq, true_and, and_true]
    omega
  rw [← left]
  refine .nested ?_
  cases outcome with
  | error fault =>
      have hides : scope.policy.shows fault = false := by
        rw [Policy.shows, strict]
        rfl
      exact .stopped found counted (.aborted followed hides)
  | ok shown =>
      have clear : Span.find (shown ++ behind) = .ok none := by
        rw [Span.find_eq_none_iff]
        exact (Passed.of_not_mem ((plain shown rfl).append plainBehind).brace_not_mem).clear
      exact .replaced found counted (.evaluated followed) (.clear clear)

/-- A span that is a text of its own. -/
theorem alone
    {inner : Text}
    {outcome : Except Fault Text}
    (strict : scope.policy.strict = true)
    (inside : Span.Inside inner spanCloser)
    (follows : engine.Yields (.script (engine.spanScript scope inner)) spans outcome)
    (plain : ∀ shown, outcome = .ok shown → shown.IsPlain) :
    engine.Yields (.expand scope (spanOpener ++ inner ++ spanCloser)) (spans + 1)
      outcome := by
  have around := around strict (List.forall_mem_nil _) (List.forall_mem_nil _) inside follows plain
  cases outcome <;> simpa [Except.map] using around

/-- A rendering makes what it can of an expanded text. -/
theorem on_render
    {text : Text}
    {outcome : Except Fault Text}
    (expands : engine.Yields (.expand scope text) spans outcome)
    {journal : Journal}
    (room : journal.count + spans ≤ engine.config.maxExpansions) :
    (engine.render scope text).on journal = engine.rendered journal spans outcome := by
  have performs : Performs engine (engine.render scope text)
      (.render scope text) journal := Performs.render scope text journal
  unfold Journal.count at room
  unfold rendered
  by_cases outermost : journal.depth = 0
  · rw [if_pos outermost] at room
    rw [if_neg (by omega)]
    have expansion := expands journal.renewed room
    cases outcome with
    | error fault => exact performs.on_eq (.unfinished outermost expansion)
    | ok shown =>
        refine performs.on_eq (.finished outermost expansion ?_)
        rw [on_finalize, noted_advanced]
        rfl
  · have inside := Nat.pos_of_ne_zero outermost
    rw [if_neg outermost] at room
    rw [if_pos inside]
    exact performs.on_eq (.inner inside (expands journal room))

end Yields

section

variable {engine : Engine} {scope : Scope}
  {handler : Handler} {text : Float → Text}

/-- The script of a call that calculates its content. -/
theorem spanScript_of_shows
    (shows : handler.Shows text)
    (known : engine.registry.find? handler.name = some handler)
    {content : Text}
    (single : Arguments.count (Text.trimEnd content) = 1) :
    engine.spanScript scope (handler.name.toList ++ ':' :: content) =
      text <$> Handler.arithmetic engine.setting scope (Text.trimEnd content) := by
  have called := Operation.ofInner_padded_call shows.isName content
  have accepted : handler.accepts (Arguments.count (Text.trimEnd content)) = true := by
    rw [single]
    exact shows.takesOne
  rw [engine.spanScript_of_accepted called (by rwa [String.ofList_toList]) accepted,
    shows.runs]

theorem isPlain_of_map
    (shows : handler.Shows text)
    {outcome : Except Fault Float}
    {shown : Text}
    (shownText : text <$> outcome = .ok shown) :
    shown.IsPlain := by
  cases outcome with
  | error fault => cases shownText
  | ok x =>
      cases shownText
      exact shows.clear x

/-- The script of a calculation on plain text. -/
theorem yields_plain
    (shows : handler.Shows text)
    (known : engine.registry.find? handler.name = some handler)
    {content : Text}
    (plain : content.IsPlain)
    (single : Arguments.count (Text.trimEnd content) = 1) :
    engine.Yields (.script (engine.spanScript scope (handler.name.toList ++ ':' :: content)))
      0 (text <$> Handler.calculate engine.setting scope (Text.trimEnd content)) := by
  rw [spanScript_of_shows shows known single,
    Handler.arithmetic_of_plain _ _ plain.trimEnd.hasNotation_eq_false, Script.map_ofExcept]
  exact .ofExcept _

/-- A calculation that stands as an operand in parentheses is replaced by the text of its
amount. -/
theorem yields_operand
    (scope : Scope)
    (calculationKnown : engine.registry.find? "CALC" = some Handler.calculation)
    (strict : scope.policy.strict = true)
    {start operand rest : Text}
    {inner : Expression}
    (plainStart : start.IsPlain)
    (plainRest : rest.IsPlain)
    (operandParsed : Expression.parse operand = .ok inner) :
    engine.Yields
      (.expand scope (enclosed start (callText "CALC".toList operand) rest)) 1
      ((Amount.resultText <$> Handler.amount engine.setting scope inner).map fun shown =>
        enclosed start shown rest) := by
  have operandTrimmed := parse_trimEnd operandParsed
  have plainOperand := isPlain_of_parse operandParsed
  have plainCall := Handler.calculation_shows.isName.isPlain_call plainOperand
  have plainBefore : Text.IsPlain (start ++ ['(']) :=
    plainStart.append (by simp [Text.IsPlain])
  have plainBehind : Text.IsPlain (')' :: rest) :=
    List.forall_mem_cons.2 ⟨by decide, plainRest⟩
  have script : engine.Yields
      (.script (engine.spanScript scope ("CALC".toList ++ ':' :: operand))) 0 _ :=
    yields_plain Handler.calculation_shows calculationKnown plainOperand
      (count_eq_one_of_parse operandTrimmed)
  rw [Handler.calculate_of_parse _ _ operandTrimmed] at script
  simp only [enclosed_eq_append]
  exact .around strict plainBefore plainBehind (.of_isPlain plainCall) script
    fun shown => isPlain_of_map Handler.calculation_shows

/-- The script of a calculation with another one as an operand in parentheses. It calculates
with the text of the inner amount. -/
theorem yields_nested
    (shows : handler.Shows text)
    (known : engine.registry.find? handler.name = some handler)
    (calculationKnown : engine.registry.find? "CALC" = some Handler.calculation)
    (strict : scope.policy.strict = true)
    {start operand rest : Text}
    {inner : Expression}
    (plainStart : start.IsPlain)
    (plainRest : rest.IsPlain)
    (operandParsed : Expression.parse operand = .ok inner) :
    engine.Yields
      (.script (engine.spanScript scope (handler.name.toList ++ ':' ::
        enclosed start (callText "CALC".toList operand) rest))) 1
      (text <$> (Handler.amount engine.setting scope inner >>= fun x =>
        Handler.calculate engine.setting scope
          (enclosed start (Amount.resultText x) (Text.trimEnd rest)))) := by
  have single : Arguments.count (Text.trimEnd
      (enclosed start (callText "CALC".toList operand) rest)) = 1 := by
    rw [trimEnd_enclosed]
    refine count_enclosed ?_
    simp [enclosed, callText, spanOpener, spanCloser, plainStart.comma_not_mem,
      (isPlain_of_parse operandParsed).comma_not_mem, plainRest.trimEnd.comma_not_mem]
  have notated : hasNotation
      (enclosed start (callText "CALC".toList operand) (Text.trimEnd rest)) = true := by
    rw [hasNotation_iff]
    exact ⟨start ++ ['('], _, by simp [enclosed, callText]; rfl⟩
  -- the content is expanded, which calculates the operand
  have answered := (yields_operand scope calculationKnown strict plainStart plainRest.trimEnd
    operandParsed).expandRequest fun answer =>
      Script.map_ofExcept text (answer >>= Handler.calculate engine.setting scope)
  rw [spanScript_of_shows shows known single, trimEnd_enclosed,
    Handler.arithmetic_of_notation _ _ notated]
  cases calculated : Handler.amount engine.setting scope inner with
  | error fault =>
      rw [calculated] at answered
      exact answered
  | ok x =>
      rw [calculated] at answered
      exact answered

/-- A calculation on plain text with parentheses is rendered as what it calculates. -/
theorem on_render_enclosed
    (shows : handler.Shows text)
    (known : engine.registry.find? handler.name = some handler)
    (strict : scope.policy.strict = true)
    {start operand rest : Text}
    (plain : (enclosed start operand rest).IsPlain)
    {journal : Journal}
    (room : journal.count + 1 ≤ engine.config.maxExpansions) :
    (engine.render scope
        (callText handler.name.toList (enclosed start operand rest))).on journal =
      engine.rendered journal 1
        (text <$> Handler.calculate engine.setting scope
          (enclosed start operand (Text.trimEnd rest))) := by
  have plainTrimmed := plain.trimEnd
  have single : Arguments.count (Text.trimEnd (enclosed start operand rest)) = 1 := by
    rw [trimEnd_enclosed] at plainTrimmed ⊢
    exact count_enclosed plainTrimmed.comma_not_mem
  rw [← trimEnd_enclosed]
  exact (Yields.alone strict (.of_isPlain (shows.isName.isPlain_call plain))
    (yields_plain shows known plain single) fun _ => isPlain_of_map shows).on_render room

/-- A calculation with another one as an operand is rendered as what it calculates with the text
of the inner amount. -/
theorem on_render_nested
    (shows : handler.Shows text)
    (known : engine.registry.find? handler.name = some handler)
    (calculationKnown : engine.registry.find? "CALC" = some Handler.calculation)
    (strict : scope.policy.strict = true)
    {start operand rest : Text}
    {inner : Expression}
    (plainStart : start.IsPlain)
    (plainRest : rest.IsPlain)
    (operandParsed : Expression.parse operand = .ok inner)
    {journal : Journal}
    (room : journal.count + 2 ≤ engine.config.maxExpansions) :
    (engine.render scope (callText handler.name.toList
        (enclosed start (callText "CALC".toList operand) rest))).on journal =
      engine.rendered journal 2
        (text <$> (Handler.amount engine.setting scope inner >>= fun x =>
          Handler.calculate engine.setting scope
            (enclosed start (Amount.resultText x) (Text.trimEnd rest)))) := by
  have plainOperand := isPlain_of_parse operandParsed
  have nested : Span.Inside ("CALC".toList ++ ':' :: operand)
      (spanCloser ++ ((')' :: rest) ++ spanCloser)) :=
    .of_isPlain (Handler.calculation_shows.isName.isPlain_call plainOperand)
  have behind : Span.Inside (')' :: rest) spanCloser :=
    .of_isPlain (List.forall_mem_cons.2 ⟨by decide, plainRest⟩)
  have plainBefore : Text.IsPlain (handler.name.toList ++ ':' :: (start ++ ['('])) :=
    shows.isName.isPlain_call (plainStart.append (by simp [Text.IsPlain]))
  have inside := Span.Inside.append_left plainBefore (.span nested behind)
  refine (Yields.alone strict ?_ (yields_nested shows known calculationKnown strict plainStart
    plainRest operandParsed) fun _ => isPlain_of_map shows).on_render room
  simpa [enclosed, callText] using inside

end

/-- The renderer with the built-in handlers. -/
def standard : Engine where
  config := {}
  registry := .builtin
  rules := ⟨[]⟩
  patterns := .linear
  words := .counting 0

/-- A calculation as an operand of another one is rendered as if the text of its amount stood
there in parentheses, with one more span. That is how its own expression is rendered there, if
the amount reads back from its text; so for every whole number. If the operand cannot be
calculated, neither is rendered. -/
theorem render_nested_calculation
    (engine : Engine)
    (scope : Scope)
    (journal : Journal)
    {outer : Handler}
    {start operand rest : Text}
    {inner whole : Expression}
    (strict : scope.policy.strict = true)
    (calculates : outer ∈ Handler.calculators)
    (outerKnown : engine.registry.find? outer.name = some outer)
    (calculationKnown : engine.registry.find? "CALC" = some Handler.calculation)
    (operandParsed : Expression.parse operand = .ok inner)
    (parsed : Expression.parse (enclosed start operand rest) = .ok whole)
    (room : journal.count + 2 ≤ engine.config.maxExpansions) :
    let rendering (operand : Text) :=
      (engine.render scope
        (callText outer.name.toList (enclosed start operand rest))).on journal
    let nested := rendering (callText "CALC".toList operand)
    match Handler.amount engine.setting scope inner with
    | .ok x =>
        nested = (rendering (Amount.resultText x)).map id (Journal.advanced 0 1) ∧
          (Rounding.isWhole x = true ∨ Amount.ReadsBack x →
            nested = (rendering operand).map id (Journal.advanced 0 1))
    | .error fault =>
        nested.1 = .error fault ∧ ∃ other, (rendering operand).1 = .error other := by
  intro rendering nested
  obtain ⟨text, shows⟩ := Handler.exists_shows_of_mem calculates
  obtain ⟨plainStart, plainOperand, plainRest⟩ := isPlain_enclosed_iff.1 (isPlain_of_parse parsed)
  have plainly {content : Text} (plain : content.IsPlain) :
      rendering content = engine.rendered journal 1
        (text <$> Handler.calculate engine.setting scope
          (enclosed start content (Text.trimEnd rest))) :=
    on_render_enclosed shows outerKnown strict
      (isPlain_enclosed_iff.2 ⟨plainStart, plain, plainRest⟩) (by omega)
  have nestedly : nested = engine.rendered journal 2 _ :=
    on_render_nested shows outerKnown calculationKnown strict plainStart plainRest
      operandParsed room
  have trimmed := parse_trimEnd parsed
  rw [trimEnd_enclosed] at trimmed
  cases calculated : Handler.amount engine.setting scope inner with
  | error fault =>
      rw [calculated] at nestedly
      obtain ⟨other, fails⟩ := Handler.calculate_fails operandParsed calculated trimmed
      refine ⟨?_, other, ?_⟩
      · rw [nestedly]
        exact engine.rendered_error journal 2 fault
      · rw [plainly plainOperand, fails]
        exact engine.rendered_error journal 1 other
  | ok x =>
      rw [calculated] at nestedly
      have shownText := plainly (Amount.isPlain_resultText x)
      refine ⟨?_, fun whole => ?_⟩
      · rw [nestedly, shownText]
        exact engine.rendered_succ journal 1 _
      · have readsBack := whole.elim Amount.readsBack_of_isWhole id
        rw [nestedly, plainly plainOperand,
          shows.map_calculate_eq operandParsed calculated readsBack trimmed]
        exact engine.rendered_succ journal 1 _

/-- Five halves are shown as they are. -/
theorem render_nested_calculation_of_halves :
    let scope : Scope := { character := .object [] }
    let rendering (operand : Text) :=
      (standard.render scope
        (callText "ROUNDUP".toList (enclosed "2.5*".toList operand "-1".toList))).on {}
    rendering (callText "CALC".toList "5/2".toList) =
        (rendering "5/2".toList).map id (Journal.advanced 0 1) ∧
      (rendering "5/2".toList).1 = .ok "6".toList := by
  intro scope rendering
  let half : Expression := .binary .div (.number 5.0) (.number 2.0)
  have operandParsed : Expression.parse "5/2".toList = .ok half := rfl
  have parsed : Expression.parse (enclosed "2.5*".toList "5/2".toList "-1".toList) =
      .ok (.binary .sub (.binary .mul (.number 2.5) half) (.number 1.0)) := rfl
  have member : Handler.roundUp ∈ Handler.calculators := by simp [Handler.calculators]
  have compared := standard.render_nested_calculation scope {} rfl member rfl rfl
    operandParsed parsed (by decide)
  have calculated : Handler.amount standard.setting scope half = .ok 2.5 := by decide +kernel
  have readsBack : Amount.ReadsBack 2.5 := ⟨2.5, by decide +kernel, .inl rfl⟩
  rw [calculated] at compared
  exact ⟨compared.2 (.inr readsBack), by decide +kernel⟩

/-- The inner calculation does not show a third to its full precision, so three times that is
less than one. An operand that fails is expanded first, so its fault hides one that stands in
front of it. And every call counts. -/
theorem nested_third_is_cut :
    let scope : Scope := { character := .object [] }
    let rendering (engine : Engine) (content : Text) :=
      ((engine.render scope (callText "CALC".toList content)).on {}).1
    let nested (operand : Text) := callText "CALC".toList operand
    let third : Text := "1/3".toList
    let failing : Text := "1/0".toList
    ((Expression.parse third).isOk = true ∧
      (Expression.parse (enclosed [] third "*3".toList)).isOk = true ∧
      rendering standard (enclosed [] third "*3".toList) = .ok "1".toList ∧
      rendering standard (enclosed [] (nested third) "*3".toList) = .ok "0.99".toList) ∧
    rendering standard (enclosed "0.5+x+".toList failing []) ≠
      rendering standard (enclosed "0.5+x+".toList (nested failing) []) ∧
    rendering (standard.limited 1) (enclosed [] "2".toList []) = .ok "2".toList ∧
    rendering (standard.limited 1) (enclosed [] (nested "2".toList) []) =
      .error (.misused "process" (.tooManyExpansions 1)) := by
  decide +kernel

end Engine
end CharacterSheet
