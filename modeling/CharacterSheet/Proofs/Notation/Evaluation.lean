import CharacterSheet.Notation.Expression
import CharacterSheet.Proofs.Success

/-!
# The order of an evaluation

Two things can stop the evaluation of an expression: a name whose lookup fails, and a divisor
that is zero. `Expression.events` lists them in the order in which an expression is read, the
events of a part before those of what it is part of, and `Expression.value` says what an
expression is worth once its names have numbers. Both are said without an evaluation.

The names are looked up in turn, and what a lookup gives may depend on those before it:
`Expression.course` and `Expression.worth` are the events and the worth that this leads to. An
evaluation follows its course up to the first event that fails (`Expression.run_evaluate`).
Nothing is looked up behind it, and without one every name is looked up once for each time that
it occurs (`Expression.lookups_in_reading_order`).
-/

namespace CharacterSheet

/-- What a lookup gives. -/
abbrev Answer := Except Fault Float

/-- A lookup of numbers by name. It may keep a state, also when it fails. -/
abbrev Lookup (σ : Type) := String → ExceptT Fault (StateM σ) Float

namespace Lookup

variable {σ : Type} (lookup : Lookup σ)

/-- The answers to names that are looked up in turn, whatever was answered before. -/
def answers : List String → σ → List Answer
  | [], _ => []
  | name :: names, state =>
    let (answer, state) := (lookup name).run state
    answer :: answers names state

/-- The state after names were looked up in turn. -/
def after : List String → σ → σ
  | [], state => state
  | name :: names, state => after names ((lookup name).run state).2

/-- The lookup that also notes, in order, which names it is asked for. -/
def noted : Lookup (σ × List String) := fun name =>
  ExceptT.mk fun (state, names) =>
    let (answer, state) := (lookup name).run state
    (answer, (state, names ++ [name]))

theorem answers_append (names more : List String) (state : σ) :
    lookup.answers (names ++ more) state =
      lookup.answers names state ++ lookup.answers more (lookup.after names state) := by
  induction names generalizing state with
  | nil => rfl
  | cons name names inductionHypothesis =>
      exact congrArg (((lookup name).run state).1 :: ·) (inductionHypothesis _)

theorem after_append (names more : List String) (state : σ) :
    lookup.after (names ++ more) state = lookup.after more (lookup.after names state) := by
  induction names generalizing state with
  | nil => rfl
  | cons name names inductionHypothesis => exact inductionHypothesis _

@[simp] theorem length_answers (names : List String) (state : σ) :
    (lookup.answers names state).length = names.length := by
  induction names generalizing state with
  | nil => rfl
  | cons name names inductionHypothesis => exact congrArg (· + 1) (inductionHypothesis _)

end Lookup

namespace Operator

/-- The result of an operation as a float; a division by zero gives an infinity or NaN. -/
def combine : Operator → Float → Float → Float
  | .add, x, y => x + y
  | .sub, x, y => x - y
  | .mul, x, y => x * y
  | .div, x, y => x / y

end Operator

namespace Expression

/-- What can stop an evaluation: a name that is looked up, or a number that is divided by. -/
inductive Event
  | lookup (name : String) (answer : Answer)
  | division (divisor : Float)

namespace Event

/-- The fault of an event that fails. -/
def fault? : Event → Option Fault
  | .lookup _ (.ok _) => none
  | .lookup _ (.error fault) => some fault
  | .division divisor => if divisor == 0.0 then some (.malformed .divisionByZero) else none

/-- The name that is looked up. -/
def name? : Event → Option String
  | .lookup name _ => some name
  | .division _ => none

/-- What an operation by a number can fail with. -/
def ofOperation : Operator → Float → List Event
  | .div, divisor => [.division divisor]
  | _, _ => []

end Event

/-- The numbers of answers. That of a failed one is NaN, of which no operation makes a zero. -/
def numbers (answers : List Answer) : List Float :=
  answers.map fun
    | .ok x => x
    | .error _ => 0.0 / 0.0

/-- What an expression is worth when its names have the given numbers from left to right. -/
def value : Expression → List Float → Float
  | .number x, _ => x
  | .reference _, numbers => numbers.headD 0.0
  | .negative inner, numbers => -inner.value numbers
  | .binary op left right, numbers =>
    op.combine (left.value numbers) (right.value (numbers.drop left.references.length))

/-- All events of an expression whose names are answered so from left to right: those of a left
operand, those of a right operand, and then those of their operation. -/
def events : Expression → List Answer → List Event
  | .number _, _ => []
  | .reference name, answers => (answers.head?.map (Event.lookup name)).toList
  | .negative inner, answers => inner.events answers
  | .binary op left right, answers =>
    let others := answers.drop left.references.length
    left.events answers ++ right.events others ++
      Event.ofOperation op (right.value (numbers others))

/-- The fault of the first event that fails. -/
def firstFault? (events : List Event) : Option Fault := events.findSome? Event.fault?

/-- The events up to the first that fails. -/
def untilFault : List Event → List Event
  | [] => []
  | event :: events =>
    if event.fault?.isSome then [event] else event :: untilFault events

/-- The names that events look up. -/
def namesOf (events : List Event) : List String := events.filterMap Event.name?

/-- What events end with: the fault of the first that fails, else a number. -/
def outcome (events : List Event) (x : Float) : Answer :=
  match firstFault? events with
  | some fault => .error fault
  | none => .ok x

section

variable {first second : List Event} {fault : Fault}

theorem outcome_of_fault
    (failed : firstFault? first = some fault)
    (x : Float) :
    outcome first x = .error fault := by
  rw [outcome, failed]

theorem outcome_of_faultless
    (faultless : firstFault? first = none)
    (x : Float) :
    outcome first x = .ok x := by
  rw [outcome, faultless]

/-- What comes behind an event that fails does not matter. -/
theorem firstFault?_append_of_fault
    (failed : firstFault? first = some fault) :
    firstFault? (first ++ second) = some fault := by
  unfold firstFault? at failed ⊢
  rw [List.findSome?_append, failed, Option.some_or]

theorem firstFault?_append_of_faultless
    (faultless : firstFault? first = none) :
    firstFault? (first ++ second) = firstFault? second := by
  unfold firstFault? at faultless ⊢
  rw [List.findSome?_append, faultless, Option.none_or]

theorem outcome_append_of_faultless
    (faultless : firstFault? first = none)
    (x : Float) :
    outcome (first ++ second) x = outcome second x := by
  rw [outcome, firstFault?_append_of_faultless faultless, outcome]

theorem untilFault_append_of_fault
    (failed : firstFault? first = some fault) :
    untilFault (first ++ second) = untilFault first := by
  induction first with
  | nil => cases failed
  | cons event events inductionHypothesis =>
      rw [List.cons_append]
      unfold untilFault
      cases own : event.fault? with
      | some other => rfl
      | none =>
          unfold firstFault? at failed
          rw [List.findSome?_cons, own] at failed
          simp only [Option.isSome_none, Bool.false_eq_true, if_false,
            inductionHypothesis failed]

theorem untilFault_append_of_faultless
    (faultless : firstFault? first = none) :
    untilFault (first ++ second) = first ++ untilFault second := by
  induction first with
  | nil => rfl
  | cons event events inductionHypothesis =>
      unfold firstFault? at faultless
      rw [List.findSome?_cons] at faultless
      rw [List.cons_append, untilFault]
      cases own : event.fault? with
      | some other =>
          rw [own] at faultless
          cases faultless
      | none =>
          rw [own] at faultless
          simp only [Option.isSome_none, Bool.false_eq_true, if_false,
            inductionHypothesis faultless, List.cons_append]

theorem untilFault_of_faultless
    (faultless : firstFault? first = none) :
    untilFault first = first := by
  have nothing : untilFault (first ++ []) = first ++ untilFault [] :=
    untilFault_append_of_faultless faultless
  simpa [untilFault] using nothing

theorem untilFault_initial (events : List Event) : untilFault events <+: events := by
  induction events with
  | nil => exact List.nil_prefix
  | cons event events inductionHypothesis =>
      unfold untilFault
      split
      · exact List.cons_prefix_cons.2 ⟨rfl, List.nil_prefix⟩
      · exact List.cons_prefix_cons.2 ⟨rfl, inductionHypothesis⟩

theorem namesOf_append : namesOf (first ++ second) = namesOf first ++ namesOf second :=
  List.filterMap_append

end

section

variable {answers more : List Answer}

/-- The worth of an expression depends on as many numbers as it has names. -/
theorem value_append
    (expression : Expression)
    {given others : List Float}
    (enough : expression.references.length ≤ given.length) :
    expression.value (given ++ others) = expression.value given := by
  induction expression generalizing given with
  | number => rfl
  | reference name =>
      cases given with
      | nil => cases enough
      | cons x given => rfl
  | negative inner inductionHypothesis => exact congrArg (-·) (inductionHypothesis enough)
  | binary op left right leftHypothesis rightHypothesis =>
      rw [references, List.length_append] at enough
      rw [value, value, leftHypothesis (by omega), List.drop_append_of_le_length (by omega),
        rightHypothesis (by rw [List.length_drop]; omega)]

/-- The events of an expression depend on as many answers as it has names. -/
theorem events_append
    (expression : Expression)
    (enough : expression.references.length ≤ answers.length) :
    expression.events (answers ++ more) = expression.events answers := by
  induction expression generalizing answers with
  | number => rfl
  | reference name =>
      cases answers with
      | nil => cases enough
      | cons answer answers => rfl
  | negative inner inductionHypothesis => exact inductionHypothesis enough
  | binary op left right leftHypothesis rightHypothesis =>
      rw [references, List.length_append] at enough
      have rest : right.references.length ≤ (answers.drop left.references.length).length := by
        rw [List.length_drop]
        omega
      rw [events, events, leftHypothesis (by omega), List.drop_append_of_le_length (by omega),
        rightHypothesis rest, numbers, List.map_append, value_append right (by simpa using rest)]
      rfl

/-- The events of an operation: those of its operands, and then its own. -/
theorem events_binary
    (op : Operator)
    {left : Expression}
    (right : Expression)
    (answered : answers.length = left.references.length) :
    (binary op left right).events (answers ++ more) =
      left.events answers ++
        (right.events more ++ Event.ofOperation op (right.value (numbers more))) := by
  rw [events, events_append left (Nat.le_of_eq answered.symm), ← answered, List.drop_left,
    List.append_assoc]

theorem value_binary
    (op : Operator)
    {left : Expression}
    (right : Expression)
    (answered : answers.length = left.references.length) :
    (binary op left right).value (numbers (answers ++ more)) =
      op.combine (left.value (numbers answers)) (right.value (numbers more)) := by
  have length : (numbers answers).length = left.references.length := by
    rw [numbers, List.length_map, answered]
  have split : numbers (answers ++ more) = numbers answers ++ numbers more := List.map_append
  rw [value, split, value_append left (Nat.le_of_eq length.symm), ← length, List.drop_left]

/-- The names that the events of an expression look up are its own. -/
theorem namesOf_events
    (expression : Expression)
    (answered : answers.length = expression.references.length) :
    namesOf (expression.events answers) = expression.references := by
  induction expression generalizing answers with
  | number => rfl
  | reference name =>
      cases answers with
      | nil => cases answered
      | cons answer answers => rfl
  | negative inner inductionHypothesis => exact inductionHypothesis answered
  | binary op left right leftHypothesis rightHypothesis =>
      rw [references, List.length_append] at answered
      have both := List.take_append_drop left.references.length answers
      have first : (answers.take left.references.length).length = left.references.length := by
        rw [List.length_take]
        omega
      have second : (answers.drop left.references.length).length = right.references.length := by
        rw [List.length_drop]
        omega
      have none : namesOf (Event.ofOperation op
          (right.value (numbers (answers.drop left.references.length)))) = [] := by
        cases op <;> rfl
      rw [← both, events_binary op right first, namesOf_append, namesOf_append,
        leftHypothesis first, rightHypothesis second, none, List.append_nil]
      rfl

end

/-- An operation fails with what its own event fails with. -/
theorem apply_eq
    (op : Operator)
    (x y : Float) :
    (apply op x y).mapError Fault.malformed =
      outcome (Event.ofOperation op y) (op.combine x y) := by
  cases op with
  | add | sub | mul => rfl
  | div =>
      simp only [apply, outcome, firstFault?, Event.ofOperation, List.findSome?_cons,
        List.findSome?_nil, Event.fault?]
      by_cases zero : (y == 0.0) = true
      · simp only [zero, if_true]
        rfl
      · simp only [zero]
        rfl

/-- An operation looks nothing up. -/
theorem namesOf_untilFault_ofOperation
    (op : Operator)
    (divisor : Float) :
    namesOf (untilFault (Event.ofOperation op divisor)) = [] := by
  cases op with
  | add | sub | mul => rfl
  | div =>
      rw [Event.ofOperation]
      unfold untilFault
      split <;> rfl

section

variable {σ : Type} (lookup : Lookup σ)

/-- The events of an expression whose names are all looked up from a state on, also those behind
an event that fails. -/
def course (expression : Expression) (state : σ) : List Event :=
  expression.events (lookup.answers expression.references state)

/-- What an expression is worth whose names are looked up from a state on. -/
def worth (expression : Expression) (state : σ) : Float :=
  expression.value (numbers (lookup.answers expression.references state))

variable {lookup}

theorem course_binary
    (op : Operator)
    (left right : Expression)
    (state : σ) :
    let between := lookup.after left.references state
    (binary op left right).course lookup state =
      left.course lookup state ++
        (right.course lookup between ++ Event.ofOperation op (right.worth lookup between)) := by
  rw [course, references, lookup.answers_append]
  exact events_binary op right (lookup.length_answers _ _)

theorem worth_binary
    (op : Operator)
    (left right : Expression)
    (state : σ) :
    (binary op left right).worth lookup state =
      op.combine (left.worth lookup state)
        (right.worth lookup (lookup.after left.references state)) := by
  rw [worth, references, lookup.answers_append]
  exact value_binary op right (lookup.length_answers _ _)

theorem namesOf_course
    (expression : Expression)
    (state : σ) :
    namesOf (expression.course lookup state) = expression.references :=
  namesOf_events expression (lookup.length_answers _ _)

/-- Where no event fails, all names are looked up. -/
theorem namesOf_untilFault_course
    {expression : Expression}
    {state : σ}
    (faultless : firstFault? (expression.course lookup state) = none) :
    namesOf (untilFault (expression.course lookup state)) = expression.references := by
  rw [untilFault_of_faultless faultless, namesOf_course]

theorem worth_reference
    (name : String)
    (state : σ) :
    outcome ((reference name).course lookup state) ((reference name).worth lookup state) =
      ((lookup name).run state).1 := by
  have event : (reference name).course lookup state =
      [.lookup name ((lookup name).run state).1] := rfl
  have number : (reference name).worth lookup state =
      (numbers [((lookup name).run state).1]).headD 0.0 := rfl
  rw [event, number]
  rcases ((lookup name).run state).1 with fault | x <;> rfl

theorem namesOf_untilFault_reference
    (name : String)
    (state : σ) :
    namesOf (untilFault ((reference name).course lookup state)) = [name] := by
  have event : (reference name).course lookup state =
      [.lookup name ((lookup name).run state).1] := rfl
  rw [event]
  unfold untilFault
  split <;> rfl

variable (lookup)

/-- An evaluation ends as its events do, and looks up just the names of those that are up to the
first that fails. -/
theorem run_evaluate
    (expression : Expression)
    (state : σ)
    (names : List String) :
    let asked := namesOf (untilFault (expression.course lookup state))
    (expression.evaluate lookup.noted).run (state, names) =
      (outcome (expression.course lookup state) (expression.worth lookup state),
        (lookup.after asked state, names ++ asked)) := by
  induction expression generalizing state names with
  | number x =>
      change (Except.ok x, state, names) = (.ok x, state, names ++ [])
      rw [List.append_nil]
  | reference name =>
      rw [worth_reference, namesOf_untilFault_reference]
      rfl
  | negative inner inductionHypothesis =>
      have course : (negative inner).course lookup state = inner.course lookup state := rfl
      have worth : (negative inner).worth lookup state = -inner.worth lookup state := rfl
      rw [evaluate, run_bind_eq, inductionHypothesis, course, worth]
      cases ended : firstFault? (inner.course lookup state) with
      | some fault => rw [outcome_of_fault ended, outcome_of_fault ended]
      | none =>
          rw [outcome_of_faultless ended, outcome_of_faultless ended]
          rfl
  | binary op left right leftHypothesis rightHypothesis =>
      -- The first operand that fails ends the evaluation; the operation is what is left.
      rw [evaluate, run_bind_eq, leftHypothesis, course_binary, worth_binary]
      cases leftEnd : firstFault? (left.course lookup state) with
      | some fault =>
          rw [outcome_of_fault leftEnd, outcome_of_fault (firstFault?_append_of_fault leftEnd),
            untilFault_append_of_fault leftEnd]
      | none =>
          generalize between_eq : lookup.after left.references state = between
          have leftNames := namesOf_untilFault_course leftEnd
          rw [outcome_of_faultless leftEnd, outcome_append_of_faultless leftEnd,
            untilFault_append_of_faultless leftEnd, namesOf_append, namesOf_course, leftNames]
          simp only [run_bind_eq, rightHypothesis, between_eq, lookup.after_append]
          cases rightEnd : firstFault? (right.course lookup between) with
          | some fault =>
              rw [outcome_of_fault rightEnd,
                outcome_of_fault (firstFault?_append_of_fault rightEnd),
                untilFault_append_of_fault rightEnd, List.append_assoc]
          | none =>
              rw [outcome_of_faultless rightEnd, outcome_append_of_faultless rightEnd,
                untilFault_append_of_faultless rightEnd, namesOf_append, namesOf_course,
                namesOf_untilFault_course rightEnd, namesOf_untilFault_ofOperation,
                List.append_nil, ← apply_eq, List.append_assoc]
              dsimp only
              rcases apply op (left.worth lookup state) (right.worth lookup between) with
                cause | z <;> rfl

/-- To note the names changes neither the result nor the state. -/
theorem run_evaluate_noted
    (expression : Expression)
    (state : σ)
    (names : List String) :
    (expression.evaluate lookup).run state =
      match (expression.evaluate lookup.noted).run (state, names) with
      | (result, state, _) => (result, state) := by
  induction expression generalizing state names with
  | number x => rfl
  | reference name => rfl
  | negative inner inductionHypothesis =>
      rw [evaluate, evaluate, run_bind_eq, run_bind_eq, inductionHypothesis state names]
      rcases (inner.evaluate lookup.noted).run (state, names) with ⟨fault | x, after, asked⟩ <;> rfl
  | binary op left right leftHypothesis rightHypothesis =>
      rw [evaluate, evaluate, run_bind_eq, run_bind_eq, leftHypothesis state names]
      rcases (left.evaluate lookup.noted).run (state, names) with ⟨fault | x, between, asked⟩
      · rfl
      · simp only [run_bind_eq]
        rw [rightHypothesis between asked]
        rcases (right.evaluate lookup.noted).run (between, asked) with ⟨fault | y, after, all⟩
        · rfl
        · dsimp only
          rcases apply op x y with cause | z <;> rfl

theorem untilFault_cut
    {before behind : List Event}
    {event : Event}
    {fault : Fault}
    (earlier : ∀ event ∈ before, event.fault? = none)
    (fails : event.fault? = some fault) :
    untilFault (before ++ event :: behind) = before ++ [event] := by
  rw [untilFault_append_of_faultless (List.findSome?_eq_none_iff.2 earlier), untilFault, fails]
  rfl

/-- An event fails if it is a failed lookup or a division by zero. -/
theorem Event.exists_fault_iff
    (event : Event) :
    (∃ fault, event.fault? = some fault) ↔
      (∃ name fault, event = .lookup name (.error fault)) ∨
        ∃ divisor, event = .division divisor ∧ (divisor == 0.0) = true := by
  rcases event with ⟨name, fault | x⟩ | divisor
  · simp [fault?]
  · simp [fault?]
  · simp [fault?]

theorem exists_firstFault_iff
    {events : List Event} :
    (∃ fault, firstFault? events = some fault) ↔
      (∃ name fault, .lookup name (.error fault) ∈ events) ∨
        ∃ divisor, .division divisor ∈ events ∧ (divisor == 0.0) = true := by
  have some : (∃ fault, firstFault? events = some fault) ↔
      ∃ event ∈ events, ∃ fault, event.fault? = some fault := by
    rw [← Option.isSome_iff_exists]
    simp only [firstFault?, List.isSome_findSome?, List.any_eq_true, Option.isSome_iff_exists]
  simp only [some, Event.exists_fault_iff]
  constructor
  · rintro ⟨event, mem, ⟨name, fault, rfl⟩ | ⟨divisor, rfl, zero⟩⟩
    · exact .inl ⟨name, fault, mem⟩
    · exact .inr ⟨divisor, mem, zero⟩
  · rintro (⟨name, fault, mem⟩ | ⟨divisor, mem, zero⟩)
    · exact ⟨_, mem, .inl ⟨name, fault, rfl⟩⟩
    · exact ⟨_, mem, .inr ⟨divisor, rfl, zero⟩⟩

theorem outcome_eq_ok_iff
    {events : List Event}
    {x y : Float} :
    outcome events x = .ok y ↔ firstFault? events = none ∧ x = y := by
  rw [outcome]
  cases firstFault? events <;> simp

theorem outcome_eq_error_iff
    {events : List Event}
    {x : Float}
    {fault : Fault} :
    outcome events x = .error fault ↔ firstFault? events = some fault := by
  rw [outcome]
  cases firstFault? events <;> simp

/-- The fault of events is that of the first that fails, and the names behind it do not matter. -/
theorem outcome_eq_error_iff_exists
    {events : List Event}
    {x : Float}
    {fault : Fault} :
    outcome events x = .error fault ↔
      ∃ before event behind,
        events = before ++ event :: behind ∧ event.fault? = some fault ∧
        (∀ earlier ∈ before, earlier.fault? = none) ∧
        namesOf (untilFault events) = namesOf (before ++ [event]) := by
  rw [outcome_eq_error_iff, firstFault?, List.findSome?_eq_some_iff]
  constructor
  · rintro ⟨before, event, behind, rfl, fails, earlier⟩
    exact ⟨before, event, behind, rfl, fails, earlier,
      congrArg namesOf (untilFault_cut earlier fails)⟩
  · rintro ⟨before, event, behind, split, fails, earlier, -⟩
    exact ⟨before, event, behind, split, fails, earlier⟩

/-- The names that an evaluation looks up are those of its expression from left to right, up to
the first event that fails. It fails if a lookup does or a divisor is zero, and with the fault of
the first of these events; and if it does not fail, it has looked up every name once for each time
that it occurs. -/
theorem lookups_in_reading_order
    (expression : Expression)
    (state : σ) :
    let events := expression.course lookup state
    ∃ result asked,
      (expression.evaluate lookup).run state = (result, lookup.after asked state) ∧
      (expression.evaluate lookup.noted).run (state, []) =
        (result, lookup.after asked state, asked) ∧
      asked <+: expression.references ∧
      ((∃ fault, result = .error fault) ↔
        (∃ name fault, .lookup name (.error fault) ∈ events) ∨
          ∃ divisor, .division divisor ∈ events ∧ (divisor == 0.0) = true) ∧
      (∀ fault, result = .error fault ↔
        ∃ before event behind,
          events = before ++ event :: behind ∧ event.fault? = some fault ∧
          (∀ earlier ∈ before, earlier.fault? = none) ∧
          asked = namesOf (before ++ [event])) ∧
      (∀ x, result = .ok x →
        asked = expression.references ∧ x = expression.worth lookup state) := by
  intro events
  let asked := namesOf (untilFault events)
  have noted : (expression.evaluate lookup.noted).run (state, []) =
      (outcome events (expression.worth lookup state), lookup.after asked state, asked) :=
    run_evaluate lookup expression state []
  have run := run_evaluate_noted lookup expression state []
  rw [noted] at run
  refine ⟨_, asked, run, noted, ?isPrefix, ?fails, fun fault => outcome_eq_error_iff_exists,
    ?succeeds⟩
  case isPrefix =>
    have pre := (untilFault_initial events).filterMap Event.name?
    rwa [← namesOf, ← namesOf, namesOf_course] at pre
  case fails =>
    simp only [outcome_eq_error_iff]
    exact exists_firstFault_iff
  case succeeds =>
    intro x succeeds
    obtain ⟨faultless, worth⟩ := outcome_eq_ok_iff.1 succeeds
    exact ⟨namesOf_untilFault_course faultless, worth.symm⟩

end

end Expression

end CharacterSheet
