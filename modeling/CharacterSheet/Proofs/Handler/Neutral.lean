import CharacterSheet.Proofs.Handler.Orderly

/-!
# Neutral handlers

A handler sees the policy of its scope, and may ask for expansions under another one or report what
it likes. A neutral handler makes no use of that: under another policy its script is the same, but
for the policy of the scopes it asks in (`Script.under`), and it does not report that a fault is
shown. So it asks under its own policy (`Handler.Neutral.staysUnder`).

All built-in handlers are neutral (`Registry.neutral_builtin`): each of them hands on the scope that
it was given.
-/

namespace CharacterSheet

namespace Script

variable {α β : Type} {policy : Policy}

/-- The script with every expansion asked for under a policy. -/
def under (policy : Policy) : Script α → Script α
  | .done result => .done result
  | .fail fault => .fail fault
  | .expand scope text next =>
      .expand (scope.under policy) text fun answer => under policy (next answer)
  | .render scope text next =>
      .render (scope.under policy) text fun answer => under policy (next answer)
  | .draw next => .draw fun id => under policy (next id)
  | .tooltip html source next => .tooltip html source fun token => under policy (next token)
  | .report diagnostic next => .report diagnostic (under policy next)

/-- A script that asks for expansions under one policy only. -/
def StaysUnder (policy : Policy) : Script α → Prop :=
  AsksOnly fun
    | .expand scope _ => scope.policy = policy
    | .render scope _ => scope.policy = policy
    | _ => True

/-- A script that does not report by itself that a fault is shown. -/
def Unmarked : Script α → Prop :=
  AsksOnly fun
    | .report diagnostic => diagnostic.kind ≠ .inlineError
    | _ => True

theorem staysUnder_under (policy : Policy) (script : Script α) :
    (script.under policy).StaysUnder policy := by
  induction script with
  | done | fail => trivial
  | expand scope text next inductionHypothesis
  | render scope text next inductionHypothesis => exact ⟨rfl, inductionHypothesis⟩
  | draw next inductionHypothesis
  | tooltip html source next inductionHypothesis
  | report diagnostic next inductionHypothesis => exact ⟨trivial, inductionHypothesis⟩

/-- A tame script reports nothing. -/
theorem Tame.unmarked
    {enough : Bool}
    {kept : Text → Prop}
    {script : Script α}
    (tame : script.Tame enough kept) :
    script.Unmarked := by
  induction script with
  | done | fail => trivial
  | expand scope text next inductionHypothesis =>
      refine ⟨trivial, ?_⟩
      rintro (fault | text)
      · rcases tame.2 fault with rethrows | ⟨-, tame⟩
        · rw [rethrows]
          trivial
        · exact inductionHypothesis _ tame
      · exact inductionHypothesis _ (tame.1 text)
  | render | report => exact tame.elim
  | draw next inductionHypothesis =>
      exact ⟨trivial, fun id => inductionHypothesis id (tame id)⟩
  | tooltip html source next inductionHypothesis =>
      exact ⟨trivial, fun token => inductionHypothesis token (tame.2 token)⟩

section under

@[simp] theorem under_pure (result : α) : (pure result : Script α).under policy = pure result := rfl

@[simp] theorem under_bind (script : Script α) (next : α → Script β) :
    (script >>= next).under policy =
      script.under policy >>= fun result => (next result).under policy := by
  change (script.bind next).under policy =
    (script.under policy).bind fun result => (next result).under policy
  induction script with
  | done | fail => rfl
  | expand scope text step inductionHypothesis
  | render scope text step inductionHypothesis
  | draw step inductionHypothesis
  | tooltip html source step inductionHypothesis
  | report diagnostic step inductionHypothesis => simp only [bind, under, inductionHypothesis]

@[simp] theorem under_map (change : α → β) (script : Script α) :
    (change <$> script).under policy = change <$> script.under policy :=
  under_bind script fun result => pure (change result)

@[simp] theorem under_ofExcept (result : Except Fault α) :
    (ofExcept result).under policy = ofExcept result := by
  cases result <;> rfl

@[simp] theorem under_expanded (scope : Scope) (text : Text) :
    (expanded scope text).under policy = expanded (scope.under policy) text := by
  change Script.expand _ _ _ = Script.expand _ _ _
  simp only [under_ofExcept]

theorem under_outcome (script : Script α) :
    script.outcome.under policy = (script.under policy).outcome := by
  induction script with
  | done | fail => rfl
  | expand scope text step inductionHypothesis
  | render scope text step inductionHypothesis
  | draw step inductionHypothesis
  | tooltip html source step inductionHypothesis
  | report diagnostic step inductionHypothesis => simp only [outcome, under, inductionHypothesis]

@[simp] theorem under_orIfUnresolved (script : Script α) (fallback : α) :
    (script.orIfUnresolved fallback).under policy =
      (script.under policy).orIfUnresolved fallback := by
  unfold orIfUnresolved
  rw [← under_outcome]
  refine (under_bind script.outcome _).trans (congrArg (script.outcome.under policy).bind ?_)
  funext result
  rcases result with (_ | _) | _ <;> rfl

/-- A script for each of several items is under a policy if each of them is. -/
theorem under_mapM
    {step other : α → Script β}
    (same : ∀ item, (step item).under policy = other item)
    (items : List α) :
    (items.mapM step).under policy = items.mapM other := by
  induction items with
  | nil => rfl
  | cons item items inductionHypothesis =>
      simp only [List.mapM_cons, under_bind, same, inductionHypothesis, under_pure]

end under

end Script

variable {policy : Policy}

namespace Argument

variable (setting : Setting) (scope : Scope)

@[simp] theorem under_text (argument : Text) :
    (text scope argument).under policy = text (scope.under policy) argument := by
  unfold text
  cases Quoted.literal? argument <;> exact Script.under_expanded scope _

@[simp] theorem under_value (argument : Text) :
    (value setting scope argument).under policy = value setting (scope.under policy) argument := by
  unfold value
  dsimp only
  cases Quoted.literal? (Text.trim argument) with
  | some literal => simp only [Script.under_bind, Script.under_expanded, Script.under_pure]
  | none =>
      dsimp only
      cases hasNotation (Text.trim argument) with
      | true => simp only [if_true, Script.under_bind, Script.under_expanded, Script.under_pure]
      | false =>
          cases number? (Text.trim argument) with
          | some n => rfl
          | none => exact Script.under_ofExcept _

@[simp] theorem under_valueOrWord (argument : Text) :
    (valueOrWord setting scope argument).under policy =
      valueOrWord setting (scope.under policy) argument := by
  simp only [valueOrWord, Script.under_orIfUnresolved, under_value]

@[simp] theorem under_number (handler : String) (argument : Text) :
    (number setting scope handler argument).under policy =
      number setting (scope.under policy) handler argument := by
  unfold number
  rw [Script.under_bind, under_value]
  refine bind_congr fun value => ?_
  cases value.rating? false <;> rfl

@[simp] theorem under_condition (argument : Text) :
    (condition setting scope argument).under policy =
      condition setting (scope.under policy) argument := by
  simp only [condition, Script.under_orIfUnresolved, Script.under_map, under_value]

end Argument

/-- An expression is under a policy if looking up its names is. -/
theorem Expression.under_evaluate
    {lookup other : String → Script Float}
    (same : ∀ name, (lookup name).under policy = other name)
    (expression : Expression) :
    (expression.evaluate lookup).under policy = expression.evaluate other := by
  induction expression with
  | number x => rfl
  | reference name => exact same name
  | negative inner inductionHypothesis =>
      simp only [evaluate, Script.under_bind, inductionHypothesis, Script.under_pure]
  | binary op left right leftHypothesis rightHypothesis =>
      simp only [evaluate, Script.under_bind, leftHypothesis, rightHypothesis]
      refine bind_congr fun x => bind_congr fun y => ?_
      split <;> rfl

namespace Tooltip

variable (scope : Scope)

theorem under_heading (value : Value) (field start close : String) :
    (heading scope value field start close).under policy =
      heading (scope.under policy) value field start close := by
  unfold heading
  cases (value.field? field).bind Value.string? with
  | none => rfl
  | some s => simp only [Script.under_bind, Script.under_expanded, Script.under_pure]

theorem under_block (value : Value) :
    (block scope value).under policy = block (scope.under policy) value := by
  simp only [block, Script.under_bind, Script.under_expanded, Script.under_pure]

theorem under_described (value : Value) :
    (described scope value).under policy = described (scope.under policy) value := by
  unfold described
  simp only [Script.under_bind, under_heading, Script.under_mapM (under_block scope)]
  refine bind_congr fun title => bind_congr fun subtitle => bind_congr fun blocks => ?_
  cases value.field? "citation" with
  | none => rfl
  | some citation => simp only [Script.under_bind, Script.under_ofExcept, Script.under_pure]

theorem under_body (setting : Setting) (content : Text) :
    (body setting scope content).under policy = body setting (scope.under policy) content := by
  unfold body
  dsimp only
  cases isReference (Text.trim content) with
  | false => exact Argument.under_text scope _
  | true =>
      simp only [if_true, Script.under_bind, Script.under_ofExcept]
      refine bind_congr fun value => ?_
      cases value with
      | string s => exact Script.under_expanded scope _
      | _ =>
          dsimp only
          split
          · exact under_described scope _
          · rfl

end Tooltip

namespace Handler

/-- A handler whose script is the same under every policy, but for the policy of the scopes it asks
in. -/
def IgnoresPolicy (handler : Handler) : Prop :=
  ∀ setting policy scope content,
    (handler.run setting scope content).under policy =
      handler.run setting (scope.under policy) content

/-- A handler that ignores the policy and does not report by itself that a fault is shown. -/
structure Neutral (handler : Handler) : Prop where
  ignores : handler.IgnoresPolicy
  unmarked : ∀ setting scope content, (handler.run setting scope content).Unmarked

/-- A neutral handler asks under the policy of its scope. -/
theorem Neutral.staysUnder
    {handler : Handler}
    (neutral : handler.Neutral)
    (setting : Setting)
    (scope : Scope)
    (content : Text) :
    (handler.run setting scope content).StaysUnder scope.policy := by
  have same : handler.run setting scope content =
      (handler.run setting scope content).under scope.policy :=
    (neutral.ignores setting scope.policy scope content).symm
  rw [same]
  exact Script.staysUnder_under _ _

theorem ignoresPolicy_characterName : characterName.IgnoresPolicy := by
  intro setting policy scope content
  unfold characterName
  dsimp only [Scope.under]
  cases scope.character.textField? "name" <;> rfl

theorem ignoresPolicy_rewording (name : String) (change : Text → Text) :
    (rewording name change).IgnoresPolicy := by
  intro setting policy scope content
  simp only [rewording, Script.under_map, Argument.under_text]

theorem ignoresPolicy_ref : ref.IgnoresPolicy := by
  intro setting policy scope content
  simp only [ref, Script.under_bind, Script.under_ofExcept, Script.under_pure]
  rfl

theorem ignoresPolicy_source : source.IgnoresPolicy := by
  intro setting policy scope content
  unfold source
  dsimp only
  split
  · rw [Script.under_bind, Script.under_pure]
    refine bind_congr fun value => ?_
    split
    · simp only [Script.under_map, Script.under_ofExcept]
    · rfl
  · rw [Script.under_bind, Script.under_ofExcept]
    refine bind_congr fun value => ?_
    split
    · simp only [Script.under_map, Script.under_ofExcept]
    · rfl

theorem under_branch
    (scope : Scope)
    (taken : Bool)
    (yes : Text)
    (no? : Option Text) :
    (branch scope taken yes no?).under policy = branch (scope.under policy) taken yes no? := by
  unfold branch
  rw [Script.under_map]
  cases taken <;> cases no? <;> simp only [Argument.under_text, Script.under_pure]

theorem ignoresPolicy_testing
    {test : Setting → Scope → Text → Script Bool}
    (same : ∀ setting policy scope subject,
      (test setting scope subject).under policy = test setting (scope.under policy) subject)
    (name : String) :
    (testing name test).IgnoresPolicy := by
  intro setting policy scope content
  unfold testing
  dsimp only
  rcases Arguments.ofContent content with _ | ⟨subject, _ | ⟨yes, rest⟩⟩
  · rfl
  · rfl
  · simp only [Script.under_bind, same, under_branch]

theorem ignoresPolicy_searching (name : String) (wanted : Bool) :
    (searching name wanted).IgnoresPolicy := by
  intro setting policy scope content
  unfold searching
  dsimp only
  rcases Arguments.ofContent content with _ | ⟨needle, _ | ⟨haystack, _ | ⟨yes, rest⟩⟩⟩
  · rfl
  · rfl
  · rfl
  · simp only [isMember, Script.under_bind, Argument.under_valueOrWord, Argument.under_value,
      Script.under_pure, under_branch]

theorem under_firstCase
    (setting : Setting)
    (scope : Scope)
    (subject : Value)
    (cases : List Text) :
    (firstCase setting scope subject cases).under policy =
      firstCase setting (scope.under policy) subject cases := by
  fun_induction firstCase setting scope subject cases with
  | case1 => rfl
  | case2 fallback => exact Argument.under_text scope fallback
  | case3 candidate output rest inductionHypothesis =>
      rw [firstCase, Script.under_bind, Argument.under_valueOrWord]
      refine bind_congr fun value => ?_
      split
      · exact Argument.under_text scope output
      · exact inductionHypothesis

theorem ignoresPolicy_switch : switch.IgnoresPolicy := by
  intro setting policy scope content
  unfold switch
  dsimp only
  rcases Arguments.ofContent content with _ | ⟨subject, cases⟩
  · rfl
  · simp only [Script.under_bind, Script.under_orIfUnresolved, Script.under_map,
      Argument.under_value, under_firstCase]

theorem ignoresPolicy_inlineList : inlineList.IgnoresPolicy := by
  intro setting policy scope content
  unfold inlineList
  dsimp only
  rcases Arguments.ofContent content with _ | ⟨argument, rest⟩
  · rfl
  · simp only [Script.under_bind, Argument.under_value, Script.under_ofExcept,
      Script.under_mapM (Script.under_expanded scope), Script.under_pure]

theorem under_optionText (name : String) (scope : Scope) (key : String) :
    (optionText name scope key).under policy = optionText name (scope.under policy) key := by
  unfold optionText
  rw [Script.under_bind, Script.under_ofExcept]
  refine bind_congr fun options => ?_
  split
  · rfl
  · rfl
  · simp only [Script.under_map, Script.under_expanded]
  · rfl

theorem ignoresPolicy_optionList : optionList.IgnoresPolicy := by
  intro setting policy scope content
  simp only [optionList, Script.under_bind, Script.under_mapM (under_optionText "OPTIONLIST" scope)]
  refine bind_congr fun texts => ?_
  split <;> rfl

theorem ignoresPolicy_inlineOption : inlineOption.IgnoresPolicy := by
  intro setting policy scope content
  simp only [inlineOption, Script.under_bind, under_optionText, Script.under_pure]

theorem under_arithmetic (setting : Setting) (scope : Scope) (content : Text) :
    (arithmetic setting scope content).under policy =
      arithmetic setting (scope.under policy) content := by
  have lookups (name : String) :
      (Script.ofExcept (operandNumber setting scope name)).under policy =
        Script.ofExcept (operandNumber setting (scope.under policy) name) :=
    Script.under_ofExcept _
  unfold arithmetic
  dsimp only
  split
  · rw [Script.under_bind, Script.under_expanded]
    refine bind_congr fun source => ?_
    split
    · rfl
    · exact Expression.under_evaluate lookups _
  · rw [Script.under_bind, Script.under_pure]
    refine bind_congr fun source => ?_
    split
    · rfl
    · exact Expression.under_evaluate lookups _

theorem ignoresPolicy_choosing (name : String) (start : Float) (choose : Float → Float → Float) :
    (choosing name start choose).IgnoresPolicy := by
  intro setting policy scope content
  simp only [choosing, Script.under_bind, Script.under_pure,
    Script.under_mapM (Argument.under_number setting scope name)]

theorem ignoresPolicy_calculating (name : String) (round : Float → Float) :
    (calculating name round).IgnoresPolicy := by
  intro setting policy scope content
  simp only [calculating, Script.under_bind, under_arithmetic, Script.under_pure]

theorem ignoresPolicy_signed : signed.IgnoresPolicy := by
  intro setting policy scope content
  simp only [signed, Script.under_bind, under_arithmetic, Script.under_pure]

theorem under_ratingArgument
    (setting : Setting)
    (scope : Scope)
    (flags : ValueFlags)
    (argument : Text) :
    (ratingArgument setting scope flags argument).under policy =
      ratingArgument setting (scope.under policy) flags argument := by
  unfold ratingArgument
  dsimp only
  split
  · simp only [Script.under_orIfUnresolved, Script.under_map, Argument.under_value]
  · simp only [Script.under_map, Argument.under_value]

theorem ignoresPolicy_value : value.IgnoresPolicy := by
  intro setting policy scope content
  unfold value
  dsimp only
  rcases Arguments.ofContent content with _ | ⟨argument, rest⟩
  · rfl
  · rw [Script.under_bind, Script.under_ofExcept]
    refine bind_congr fun flags => ?_
    rw [Script.under_bind, under_ratingArgument]
    refine bind_congr fun rating? => ?_
    split
    · rfl
    · split <;> rfl
    · rfl

theorem ignoresPolicy_nameValue : nameValue.IgnoresPolicy := by
  intro setting policy scope content
  simp only [nameValue, Script.under_bind, Argument.under_value]
  refine bind_congr fun value => ?_
  split
  · rfl
  · split
    · rfl
    · split <;> rfl

theorem ignoresPolicy_dots : dots.IgnoresPolicy := by
  intro setting policy scope content
  unfold dots
  dsimp only
  rcases Arguments.ofContent content with _ | ⟨argument, rest⟩
  · rfl
  · rw [Script.under_bind, Argument.under_value]
    refine bind_congr fun value => ?_
    cases rest.head? with
    | none => rfl
    | some most => simp only [Script.under_bind, Script.under_map, Argument.under_number,
        Script.under_pure]

theorem ignoresPolicy_tooltip : tooltip.IgnoresPolicy := by
  intro setting policy scope content
  unfold tooltip
  dsimp only
  split
  · simp only [Script.under_bind, Argument.under_text, Tooltip.under_body]
    refine bind_congr fun anchor => bind_congr fun body => ?_
    split <;> rfl
  · rfl

/-- The built-in handlers have the same scripts under every policy. -/
theorem ignoresPolicy_builtin : ∀ handler ∈ builtin, handler.IgnoresPolicy := by
  have missing (setting : Setting) (policy : Policy) (scope : Scope) (subject : Text) :
      (not <$> Argument.condition setting scope subject).under policy =
        not <$> Argument.condition setting (scope.under policy) subject := by
    rw [Script.under_map, Argument.under_condition]
  have nothing (setting : Setting) (policy : Policy) (scope : Scope) (subject : Text) :
      (isMissing setting scope subject).under policy =
        isMissing setting (scope.under policy) subject := by
    simp only [isMissing, Script.under_orIfUnresolved, Script.under_map, Argument.under_value]
  simp only [builtin, List.forall_mem_cons]
  exact ⟨ignoresPolicy_characterName, fun _ _ _ _ => rfl,
    ignoresPolicy_rewording _ _, ignoresPolicy_rewording _ _, ignoresPolicy_ref,
    ignoresPolicy_value, ignoresPolicy_nameValue, ignoresPolicy_signed,
    ignoresPolicy_dots, ignoresPolicy_choosing _ _ _, ignoresPolicy_choosing _ _ _,
    ignoresPolicy_calculating _ _, ignoresPolicy_calculating _ _,
    ignoresPolicy_calculating _ _,
    ignoresPolicy_testing (fun setting _ => Argument.under_condition setting) _,
    ignoresPolicy_testing missing _, ignoresPolicy_testing nothing _,
    ignoresPolicy_searching _ _, ignoresPolicy_searching _ _, ignoresPolicy_switch,
    ignoresPolicy_tooltip, ignoresPolicy_inlineList, ignoresPolicy_optionList,
    ignoresPolicy_inlineOption, ignoresPolicy_source,
    fun _ member => absurd member List.not_mem_nil⟩

/-- The built-in handlers are neutral. -/
theorem neutral_builtin : ∀ handler ∈ builtin, handler.Neutral :=
  fun handler member =>
    ⟨ignoresPolicy_builtin handler member,
      fun setting scope content => (tame_builtin handler member setting scope content).unmarked⟩

end Handler

namespace Registry

/-- A registry of neutral handlers. -/
def Neutral (registry : Registry) : Prop :=
  ∀ entry ∈ registry.entries, entry.2.Neutral

/-- A neutral registry stays neutral with further neutral handlers. -/
theorem Neutral.registerAll
    {registry : Registry}
    {handlers : List Handler}
    (neutral : registry.Neutral)
    (further : ∀ handler ∈ handlers, handler.Neutral) :
    (registry.registerAll handlers).Neutral :=
  forall_registerAll neutral further

theorem neutral_builtin : builtin.Neutral :=
  forall_registerAll (fun _ member => absurd member List.not_mem_nil) Handler.neutral_builtin

end Registry

end CharacterSheet
