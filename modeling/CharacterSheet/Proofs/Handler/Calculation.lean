import CharacterSheet.Handler.Rated
import CharacterSheet.Proofs.Decimal.ReadBack
import CharacterSheet.Proofs.Handler.Script
import CharacterSheet.Proofs.Notation.Call
import CharacterSheet.Proofs.Notation.Evaluation
import CharacterSheet.Proofs.Notation.Operand
import CharacterSheet.Rendering.Engine

/-!
# Calculations

Four handlers evaluate an expression and show the number in their way (`Handler.Shows`). What
they calculate is a number or a fault, and it asks the renderer for nothing but the expansion of
nested notation (`Handler.arithmetic_of_plain`, `Handler.arithmetic_of_notation`). A fault is that
of the first operand or divisor in reading order that has one (`Handler.amount_eq_outcome`). An
operand in parentheses counts by its number alone, and only up to the sign of a zero
(`Handler.calculate_replaced`).
-/

namespace CharacterSheet

/-- Outcomes that differ at most in the sign of a zero. -/
inductive SameOutcome {ε : Type} : Except ε Float → Except ε Float → Prop
  | ok {x y : Float} (same : SameAmount x y) : SameOutcome (.ok x) (.ok y)
  | error (fault : ε) : SameOutcome (.error fault) (.error fault)

namespace SameOutcome

variable {ε : Type}

theorem refl (outcome : Except ε Float) : SameOutcome outcome outcome := by
  cases outcome with
  | ok x => exact .ok (.inl rfl)
  | error fault => exact .error fault

/-- What gives the same outcome for the same amount gives it for the same outcome. -/
theorem bind
    {first other : Except ε Float}
    {next otherNext : Float → Except ε Float}
    (same : SameOutcome first other)
    (goesOn : ∀ x y, SameAmount x y → SameOutcome (next x) (otherNext y)) :
    SameOutcome (first >>= next) (other >>= otherNext) := by
  cases same with
  | ok same => exact goesOn _ _ same
  | error fault => exact .error fault

theorem mapError
    {ζ : Type}
    {first other : Except ε Float}
    (same : SameOutcome first other)
    (change : ε → ζ) :
    SameOutcome (first.mapError change) (other.mapError change) := by
  cases same with
  | ok same => exact .ok same
  | error fault => exact .error _

/-- What is the same for the same amount is the same for the same outcome. -/
theorem map_eq
    {α : Type}
    {first other : Except ε Float}
    {change : Float → α}
    (same : SameOutcome first other)
    (changes : ∀ x y, SameAmount x y → change x = change y) :
    change <$> first = change <$> other := by
  cases same with
  | ok same => exact congrArg Except.ok (changes _ _ same)
  | error fault => rfl

end SameOutcome

namespace Expression

/-- Operations do not tell the two zeros apart, and by neither one can be divided. -/
theorem apply_same
    {x y z w : Float}
    (op : Operator)
    (first : SameAmount x y)
    (second : SameAmount z w) :
    SameOutcome (apply op x z) (apply op y w) := by
  cases op with
  | add => exact .ok (first.add second)
  | sub => exact .ok (first.sub second)
  | mul => exact .ok (first.mul second)
  | div =>
      have zeros {z : Float} (isZero : IsZero z) : (z == 0.0) = true := by
        rcases isZero with rfl | rfl <;> decide +kernel
      rcases second with rfl | ⟨isZero, otherZero⟩
      · by_cases zero : (z == 0.0) = true
        · simp only [apply, zero, if_true]
          exact .error _
        · simp only [apply, zero]
          exact .ok (first.div z)
      · simp only [apply, zeros isZero, zeros otherZero, if_true]
        exact .error _

end Expression

namespace Script

variable {α β : Type}

theorem ofExcept_bind
    (outcome : Except Fault α)
    (next : α → Except Fault β) :
    ofExcept (outcome >>= next) = ofExcept outcome >>= fun result => ofExcept (next result) := by
  cases outcome <;> rfl

theorem map_ofExcept
    (change : α → β)
    (outcome : Except Fault α) :
    change <$> ofExcept outcome = ofExcept (change <$> outcome) := by
  cases outcome <;> rfl

end Script

namespace Handler

/-- The number of an expression, whose names refer to values of the scope. -/
def amount (setting : Setting) (scope : Scope) (expression : Expression) : Except Fault Float :=
  expression.evaluate (operandNumber setting scope)

/-- The number that a text without notation calculates. -/
def calculate (setting : Setting) (scope : Scope) (text : Text) : Except Fault Float :=
  match Expression.parse text with
  | .error cause => .error (.malformed cause)
  | .ok expression => amount setting scope expression

section

variable (setting : Setting) (scope : Scope)

theorem calculate_of_parse
    {text : Text}
    {expression : Expression}
    (parsed : Expression.parse text = .ok expression) :
    calculate setting scope text = amount setting scope expression := by
  rw [calculate, parsed]

theorem amount_negative (inner : Expression) :
    amount setting scope (.negative inner) =
      amount setting scope inner >>= fun x => pure (-x) := rfl

theorem amount_binary
    (op : Operator)
    (left right : Expression) :
    amount setting scope (.binary op left right) =
      amount setting scope left >>= fun x => amount setting scope right >>= fun y =>
        (Expression.apply op x y).mapError Fault.malformed := by
  unfold amount
  rw [Expression.evaluate]
  congr 1
  funext x
  congr 1
  funext y
  cases Expression.apply op x y <;> rfl

/-- A handler evaluates an expression to its number or fault, with no request. -/
theorem evaluate_ofExcept (expression : Expression) :
    (expression.evaluate fun name => Script.ofExcept (operandNumber setting scope name)) =
      Script.ofExcept (amount setting scope expression) := by
  induction expression with
  | number x => rfl
  | reference name => rfl
  | negative inner inductionHypothesis =>
      rw [Expression.evaluate, inductionHypothesis, amount_negative, Script.ofExcept_bind]
      rfl
  | binary op left right leftHypothesis rightHypothesis =>
      rw [Expression.evaluate, leftHypothesis, rightHypothesis, amount_binary,
        Script.ofExcept_bind]
      congr 1
      funext x
      rw [Script.ofExcept_bind]
      congr 1
      funext y
      cases Expression.apply op x y <;> rfl

/-- The operands of an expression as a lookup: it keeps no state. -/
def operandLookup : Lookup Unit := fun name =>
  ExceptT.mk fun nothing => (operandNumber setting scope name, nothing)

theorem answers_operandLookup (names : List String) :
    (operandLookup setting scope).answers names () =
      names.map (operandNumber setting scope) := by
  induction names with
  | nil => rfl
  | cons name names inductionHypothesis =>
      exact congrArg (operandNumber setting scope name :: ·) inductionHypothesis

theorem run_evaluate_operandLookup (expression : Expression) :
    (expression.evaluate (operandLookup setting scope)).run () =
      (amount setting scope expression, ()) := by
  induction expression with
  | number x => rfl
  | reference name => rfl
  | negative inner inductionHypothesis =>
      rw [Expression.evaluate, run_bind_eq, inductionHypothesis, amount_negative]
      cases amount setting scope inner <;> rfl
  | binary op left right leftHypothesis rightHypothesis =>
      rw [Expression.evaluate, run_bind_eq, leftHypothesis, amount_binary]
      cases amount setting scope left with
      | error fault => rfl
      | ok x =>
          simp only [run_bind_eq, rightHypothesis]
          cases amount setting scope right with
          | error fault => rfl
          | ok y =>
              change _ = ((Expression.apply op x y).mapError Fault.malformed, ())
              dsimp only
              cases Expression.apply op x y <;> rfl

/-- Of the operands that have no number and the divisors that are zero, the first in reading order
gives the fault of a calculation. -/
theorem amount_eq_outcome (expression : Expression) :
    let answers := expression.references.map (operandNumber setting scope)
    amount setting scope expression =
      Expression.outcome (expression.events answers)
        (expression.value (Expression.numbers answers)) := by
  have run := Expression.run_evaluate_noted (operandLookup setting scope) expression () []
  rw [Expression.run_evaluate, run_evaluate_operandLookup] at run
  rw [← answers_operandLookup]
  exact congrArg Prod.fst run

/-- A text without notation is calculated as it is. -/
theorem arithmetic_of_plain
    {text : Text}
    (plain : hasNotation text = false) :
    arithmetic setting scope text = Script.ofExcept (calculate setting scope text) := by
  unfold arithmetic calculate
  rw [plain]
  change (match Expression.parse text with
    | .error cause => throw (Fault.malformed cause)
    | .ok expression => expression.evaluate fun name =>
        Script.ofExcept (operandNumber setting scope name)) = _
  cases Expression.parse text with
  | error cause => rfl
  | ok expression => exact evaluate_ofExcept setting scope expression

/-- A text with notation is calculated as what it is expanded to. -/
theorem arithmetic_of_notation
    {text : Text}
    (notated : hasNotation text = true) :
    arithmetic setting scope text =
      .expand scope text fun answer =>
        Script.ofExcept (answer >>= calculate setting scope) := by
  unfold arithmetic
  rw [notated]
  change Script.expand scope text _ = _
  congr 1
  funext answer
  cases answer with
  | error fault => rfl
  | ok source =>
      change (match Expression.parse source with
        | .error cause => throw (Fault.malformed cause)
        | .ok expression => expression.evaluate fun name =>
            Script.ofExcept (operandNumber setting scope name)) = _
      change _ = Script.ofExcept (calculate setting scope source)
      unfold calculate
      cases Expression.parse source with
      | error cause => rfl
      | ok expression => exact evaluate_ofExcept setting scope expression

/-- Expressions that calculate the same stand for each other inside any expression. -/
theorem passes_sameOutcome :
    Expression.Passes fun first other =>
      SameOutcome (amount setting scope first) (amount setting scope other) where
  negative same := by
    rw [amount_negative, amount_negative]
    exact same.bind fun x y sameAmount => .ok sameAmount.neg
  left same := by
    rw [amount_binary, amount_binary]
    exact same.bind fun x y first => (SameOutcome.refl _).bind fun z w second =>
      (Expression.apply_same _ first second).mapError _
  right same := by
    rw [amount_binary, amount_binary]
    exact (SameOutcome.refl _).bind fun x y first => same.bind fun z w second =>
      (Expression.apply_same _ first second).mapError _

/-- An expression fails if a part of it does. -/
theorem passes_fails :
    Expression.Passes fun first _ => ∃ fault, amount setting scope first = .error fault where
  negative := by
    rintro inner - ⟨fault, failed⟩
    exact ⟨fault, by rw [amount_negative, failed]; rfl⟩
  left := by
    rintro op left - right ⟨fault, failed⟩
    exact ⟨fault, by rw [amount_binary, failed]; rfl⟩
  right := by
    rintro op left right - ⟨fault, failed⟩
    rw [amount_binary, failed]
    cases amount setting scope left with
    | error first => exact ⟨first, rfl⟩
    | ok x => exact ⟨fault, rfl⟩

variable {setting scope}
  {start operand replacement rest : Text} {inner other whole : Expression}

/-- Operands in parentheses that calculate the same stand for each other. -/
theorem calculate_replaced
    (operandParsed : Expression.parse operand = .ok inner)
    (replacementParsed : Expression.parse replacement = .ok other)
    (same : SameOutcome (amount setting scope inner) (amount setting scope other))
    (parsed : Expression.parse (Expression.enclosed start operand rest) = .ok whole) :
    SameOutcome (calculate setting scope (Expression.enclosed start operand rest))
      (calculate setting scope (Expression.enclosed start replacement rest)) := by
  obtain ⟨changed, changedParsed, sameChanged⟩ := Expression.parse_replaced
    (passes_sameOutcome setting scope) operandParsed replacementParsed same parsed
  rwa [calculate_of_parse setting scope parsed, calculate_of_parse setting scope changedParsed]

/-- What holds an operand in parentheses that fails cannot be calculated. -/
theorem calculate_fails
    {fault : Fault}
    (operandParsed : Expression.parse operand = .ok inner)
    (failed : amount setting scope inner = .error fault)
    (parsed : Expression.parse (Expression.enclosed start operand rest) = .ok whole) :
    ∃ other, calculate setting scope (Expression.enclosed start operand rest) = .error other := by
  obtain ⟨-, -, fails⟩ := Expression.parse_replaced
    (passes_fails setting scope) operandParsed operandParsed ⟨fault, failed⟩ parsed
  rwa [calculate_of_parse setting scope parsed]

/-- The text of an amount that reads back calculates that amount. -/
theorem exists_parse_of_readsBack
    {x : Float}
    (readsBack : Amount.ReadsBack x) :
    ∃ shown, Expression.parse (Amount.resultText x) = .ok shown ∧
      SameOutcome (.ok x) (amount setting scope shown) := by
  obtain ⟨y, read, same⟩ := readsBack
  rcases Amount.exists_literal x with blank | ⟨negative, literal, isLiteral, shown⟩
  · rw [blank] at read
    cases read
  · rw [shown, Amount.number?_signedDigits negative isLiteral] at read
    obtain rfl := Option.some.inj read
    refine ⟨_, by rw [shown, Amount.parse_signedDigits negative isLiteral], ?_⟩
    cases negative with
    | false => exact .ok same
    | true => exact .ok same

end

/-- A handler that calculates its content and shows the number as a text. -/
structure Shows (handler : Handler) (text : Float → Text) : Prop where
  runs : ∀ setting scope content,
    Engine.resultText <$> handler.run setting scope content =
      text <$> arithmetic setting scope content
  takesOne : handler.accepts 1 = true
  isName : Operation.IsName handler.name.toList
  same : ∀ {x y}, SameAmount x y → text x = text y
  clear : ∀ x, (text x).IsPlain

/-- In an operand in parentheses an amount that reads back can be calculated or shown. -/
theorem Shows.map_calculate_eq
    {handler : Handler}
    {text : Float → Text}
    (shows : handler.Shows text)
    {setting : Setting}
    {scope : Scope}
    {start operand rest : Text}
    {inner whole : Expression}
    {x : Float}
    (operandParsed : Expression.parse operand = .ok inner)
    (calculated : amount setting scope inner = .ok x)
    (readsBack : Amount.ReadsBack x)
    (parsed : Expression.parse (Expression.enclosed start operand rest) = .ok whole) :
    text <$> calculate setting scope (Expression.enclosed start operand rest) =
      text <$> calculate setting scope (Expression.enclosed start (Amount.resultText x) rest) := by
  obtain ⟨shown, shownParsed, same⟩ := exists_parse_of_readsBack readsBack
  rw [← calculated] at same
  exact (calculate_replaced operandParsed shownParsed same parsed).map_eq fun _ _ => shows.same

/-- The handlers that calculate an expression. -/
def calculators : List Handler := [calculation, roundUp, roundDown, signed]

theorem calculating_shows
    {name : String}
    {round : Float → Float}
    (isName : Operation.IsName name.toList)
    (same : ∀ {x y}, SameAmount x y → SameAmount (round x) (round y)) :
    (calculating name round).Shows fun x => Amount.resultText (round x) where
  runs setting scope content := by
    change Script.bind (Script.bind _ _) _ = Script.bind _ _
    rw [Script.bind_assoc]
    rfl
  takesOne := rfl
  isName := isName
  same sameAmount := congrArg Engine.resultText (same sameAmount).ofAmount
  clear x := Amount.isPlain_resultText (round x)

theorem calculation_shows : calculation.Shows Amount.resultText :=
  calculating_shows ⟨by decide, List.all_eq_true.1 (by decide)⟩ fun same => same

theorem signed_shows : signed.Shows Amount.signedText where
  runs setting scope content := by
    change Script.bind (Script.bind _ _) _ = Script.bind _ _
    rw [Script.bind_assoc]
    congr 1
    funext x
    exact congrArg Script.done String.toList_ofList
  takesOne := rfl
  isName := ⟨by decide, List.all_eq_true.1 (by decide)⟩
  same := SameAmount.signedText
  clear := Amount.isPlain_signedText

theorem exists_shows_of_mem
    {handler : Handler}
    (calculates : handler ∈ calculators) :
    ∃ text, handler.Shows text := by
  simp only [calculators, List.mem_cons, List.not_mem_nil, or_false] at calculates
  rcases calculates with rfl | rfl | rfl | rfl
  · exact ⟨_, calculation_shows⟩
  · exact ⟨_, calculating_shows ⟨by decide, List.all_eq_true.1 (by decide)⟩ SameAmount.up⟩
  · exact ⟨_, calculating_shows ⟨by decide, List.all_eq_true.1 (by decide)⟩ SameAmount.down⟩
  · exact ⟨_, signed_shows⟩

end Handler

end CharacterSheet
