import CharacterSheet.Pattern.Linear
import CharacterSheet.Proofs.Rendering.Laziness
import CharacterSheet.Proofs.Value.Comparison

/-!
# Values that are found

`IFIN` and `SWITCH` look for a value among others by the loose order, so they find it wherever it
stands, unless it is a text that is read as an infinite amount or as NaN
(`Conditional.finds_equal_values`). Such a text is equal to nothing, not even to itself.
-/

namespace CharacterSheet

open Value

namespace Conditional

variable
  {engine : Engine}
  {answers : Answers}
  {scope : Scope}
  {content needle haystack yes : Text}
  {more : List Text}
  {journal after : Journal}
  {found : Bool}

/-- The first of two branches, or what stands behind it, which may be nothing. -/
def either (scope : Scope) (yes : Text) (more : List Text) (taken : Bool) : Script Text :=
  if taken then Argument.text scope yes
  else
    match more.head? with
    | some no => Argument.text scope no
    | none => pure []

/-- The branch that is taken behind a needle and a haystack. -/
theorem shown_eq_either
    (needle haystack yes : Text)
    (more : List Text)
    (taken : Bool) :
    shown scope (needle :: haystack :: yes :: more) (branchPosition (more.length + 3) 2 taken) =
      either scope yes more taken := by
  unfold branchPosition either
  cases taken with
  | true => rfl
  | false => cases more <;> simp [shown]

/-- What a call comes to that looks for a needle, by whether it is found. -/
theorem on_dispatchWith_of_searched
    (conditional : Conditional)
    (sense : Bool → Bool)
    (known : engine.registry.find? conditional.handler.name = some conditional.handler)
    (accepted : conditional.handler.accepts (Arguments.ofContent content).length = true)
    (written : Arguments.ofContent content = needle :: haystack :: yes :: more)
    (searches : conditional.choice engine.setting scope (needle :: haystack :: yes :: more) =
      (fun found => branchPosition (more.length + 3) 2 (sense found)) <$>
        Handler.isMember engine.setting scope needle haystack)
    (searched : ((Handler.isMember engine.setting scope needle haystack).run answers).on journal =
      (.ok found, after)) :
    (engine.dispatchWith answers scope conditional.handler.name content).on journal =
      ((either scope yes more (sense found)).run answers).on after := by
  rw [dispatchWith_eq_output conditional known accepted, written]
  change ((Script.bind (conditional.choice engine.setting scope _) _).run answers).on journal = _
  rw [Script.run_bind, searches, Script.run_map, Action.on_bind, Action.on_map, searched,
    ← shown_eq_either needle haystack]
  rfl

/-- A range of three or four arguments. -/
theorem accepts_of_few
    (few : more.length ≤ 1)
    (written : Arguments.ofContent content = needle :: haystack :: yes :: more) :
    Handler.ifIn.accepts (Arguments.ofContent content).length = true := by
  rw [written]
  refine Handler.accepts_of_range (Nat.le_add_left 3 more.length) ?_
  rintro _ ⟨⟩
  exact Nat.add_le_add_right few 3

/-- `IFIN` takes its first branch exactly if the needle is found. -/
theorem on_dispatchWith_ifIn
    (known : engine.registry.find? "IFIN" = some Handler.ifIn)
    (written : Arguments.ofContent content = needle :: haystack :: yes :: more)
    (few : more.length ≤ 1)
    (searched : ((Handler.isMember engine.setting scope needle haystack).run answers).on journal =
      (.ok found, after)) :
    (engine.dispatchWith answers scope "IFIN" content).on journal =
      ((either scope yes more found).run answers).on after :=
  on_dispatchWith_of_searched .ifIn id known
    (accepts_of_few few written) written rfl searched

/-- `IFNOTIN` takes its first branch exactly if the needle is not found. -/
theorem on_dispatchWith_ifNotIn
    (known : engine.registry.find? "IFNOTIN" = some Handler.ifNotIn)
    (written : Arguments.ofContent content = needle :: haystack :: yes :: more)
    (few : more.length ≤ 1)
    (searched : ((Handler.isMember engine.setting scope needle haystack).run answers).on journal =
      (.ok found, after)) :
    (engine.dispatchWith answers scope "IFNOTIN" content).on journal =
      ((either scope yes more !found).run answers).on after :=
  on_dispatchWith_of_searched .ifNotIn not known
    (accepts_of_few few written) written rfl searched

/-- A membership is decided on the rating of the needle. -/
theorem on_isMember
    {setting : Setting}
    {value hay : Value}
    {between : Journal}
    (sought : ((Argument.valueOrWord setting scope needle).run answers).on journal =
      (.ok value, between))
    (offered : ((Argument.value setting scope haystack).run answers).on between =
      (.ok hay, after)) :
    ((Handler.isMember setting scope needle haystack).run answers).on journal =
      (.ok (hay.holds value.ratingView), after) := by
  refine Script.on_run_bind_eq_ok_iff.2 ⟨value, between, sought, ?_⟩
  exact Script.on_run_bind_eq_ok_iff.2 ⟨hay, after, offered, rfl⟩

/-- `SWITCH` takes the output of a case that equals the subject, if no earlier case does. -/
theorem on_dispatchWith_switch
    {subject candidate output : Text}
    {earlier rest : List Text}
    {value compared : Value}
    {began searched : Journal}
    (known : engine.registry.find? "SWITCH" = some Handler.switch)
    (written : Arguments.ofContent content = subject :: (earlier ++ candidate :: output :: rest))
    (paired : earlier.length % 2 = 0)
    (viewed : ((Script.orIfUnresolved
      (ratingView <$> Argument.value engine.setting scope subject) .null).run answers).on journal =
        (.ok value, began))
    (unmatched : ((firstMatch engine.setting scope value 1 earlier).run answers).on began =
      (.ok none, searched))
    (offered : ((Argument.valueOrWord engine.setting scope candidate).run answers).on searched =
      (.ok compared, after))
    (equal : looselyEqual value compared.ratingView = true) :
    (engine.dispatchWith answers scope "SWITCH" content).on journal =
      ((Argument.text scope output).run answers).on after := by
  have accepted : Handler.switch.accepts (Arguments.ofContent content).length = true := by
    refine Handler.accepts_of_range ?_ nofun
    change 3 ≤ _
    simp only [written, List.length_cons, List.length_append]
    omega
  have chosen : ((switch.choice engine.setting scope (Arguments.ofContent content)).run
      answers).on journal = (.ok (some (1 + earlier.length + 1)), after) := by
    rw [written]
    refine Script.on_run_bind_eq_ok_iff.2 ⟨value, began, viewed, ?_⟩
    rw [List.tail_cons, firstMatch_append _ _ _ paired]
    refine Script.on_run_bind_eq_ok_iff.2 ⟨none, searched, unmatched, ?_⟩
    refine Script.on_run_bind_eq_ok_iff.2 ⟨compared, after, offered, ?_⟩
    rw [if_pos equal]
    rfl
  have text : (Arguments.ofContent content).getD (1 + earlier.length + 1) [] = output := by
    rw [written, Nat.add_comm 1, List.getD_cons_succ]
    simp
  refine (congrArg (·.on journal)
    (dispatchWith_eq_output .switch known accepted)).trans ?_
  change ((Script.bind (switch.choice engine.setting scope _) _).run answers).on journal = _
  rw [Script.run_bind, Action.on_bind_of_ok chosen, shown, text]

/-- Loose equality is symmetric, and the loose order is antisymmetric except between two texts
that are read as amounts without a difference. A value equals itself, and an array is seen to hold
what it lists, exactly if the value is no text that is read as an infinite amount or as NaN. So
`IFIN` finds what is listed, and `SWITCH` matches a case that is equal to its subject. -/
theorem finds_equal_values
    (engine : Engine)
    (answers : Answers)
    (scope : Scope)
    (known : ∀ conditional : Conditional,
      engine.registry.find? conditional.handler.name = some conditional.handler) :
    (∀ a b, looselyEqual a b = looselyEqual b a) ∧
    (∀ a b, compareLoosely b a = (compareLoosely a b).swap ↔ ¬ Incomparable a b) ∧
    (∀ value, looselyEqual value value = true ↔ ¬ Immeasurable value) ∧
    (∀ value, (∀ items, value ∈ items → holds (.array items) value = true) ↔
      ¬ Immeasurable value) ∧
    (∀ content needle haystack yes more value items journal between after,
      Arguments.ofContent content = needle :: haystack :: yes :: more → more.length ≤ 1 →
      ((Argument.valueOrWord engine.setting scope needle).run answers).on journal =
        (.ok value, between) →
      ((Argument.value engine.setting scope haystack).run answers).on between =
        (.ok (.array items), after) →
      value.ratingView ∈ items → ¬ Immeasurable value.ratingView →
        (engine.dispatchWith answers scope "IFIN" content).on journal =
          ((Argument.text scope yes).run answers).on after) ∧
    (∀ content subject earlier candidate output rest value compared journal began searched after,
      Arguments.ofContent content = subject :: (earlier ++ candidate :: output :: rest) →
      earlier.length % 2 = 0 →
      ((Script.orIfUnresolved
        (ratingView <$> Argument.value engine.setting scope subject) .null).run answers).on
          journal = (.ok value, began) →
      ((firstMatch engine.setting scope value 1 earlier).run answers).on began =
        (.ok none, searched) →
      ((Argument.valueOrWord engine.setting scope candidate).run answers).on searched =
        (.ok compared, after) →
      compared.ratingView = value → ¬ Immeasurable value →
        (engine.dispatchWith answers scope "SWITCH" content).on journal =
          ((Argument.text scope output).run answers).on after) := by
  refine ⟨looselyEqual_comm, compareLoosely_swap_iff, looselyEqual_self_iff, holds_listed_iff,
    ?_, ?_⟩
  · intro content needle haystack yes more value items journal between after written few sought
      offered listed measurable
    have member := on_isMember sought offered
    rw [(holds_listed_iff _).2 measurable items listed] at member
    exact on_dispatchWith_ifIn (known .ifIn) written few member
  · rintro content subject earlier candidate output rest _ compared journal began searched after
      written paired viewed unmatched offered rfl measurable
    exact on_dispatchWith_switch (known .switch) written paired viewed unmatched offered
      ((looselyEqual_self_iff _).2 measurable)

/-- A word that is listed is found, and a case that is equal to the name is matched. -/
theorem finds_equal_values_of_words :
    let engine : Engine :=
      { config := {}, registry := .builtin, rules := ⟨[]⟩, patterns := .linear,
        words := .counting 0 }
    let answers := engine.answersBy engine.expand
    let scope : Scope :=
      { character := .object [("all", .array [.string "a", .string "b"]), ("name", .string "a")] }
    (engine.dispatchWith answers scope "IFIN" "b,all,yes,no".toList).on {} =
      ((Argument.text scope "yes".toList).run answers).on {} ∧
    (engine.dispatchWith answers scope "SWITCH" "name,b,x,a,y,z".toList).on {} =
      ((Argument.text scope "y".toList).run answers).on {} := by
  intro engine answers scope
  have measurable (s : String) (isWord : (amountText? s).isNone = true) :
      ¬ Immeasurable (.string s) := by
    rintro ⟨_, x, ⟨⟩, read, -⟩
    rw [read] at isWord
    cases isWord
  obtain ⟨-, -, -, -, member, switched⟩ := finds_equal_values engine answers scope find?_builtin
  constructor
  · exact member _ "b".toList "all".toList "yes".toList ["no".toList] (.string "b")
      [.string "a", .string "b"] {} {} {} (by decide +kernel) (Nat.le_refl 1) rfl rfl
      (List.mem_cons_of_mem _ List.mem_cons_self) (measurable "b" (by decide +kernel))
  · exact switched _ "name".toList ["b".toList, "x".toList] "a".toList "y".toList ["z".toList]
      (.string "a") (.string "a") {} {} {} {} (by decide +kernel) rfl rfl rfl rfl rfl
      (measurable "a" (by decide +kernel))

/-- A person called Nan is read as NaN, which equals nothing. So neither a case with that name nor
the list that holds it is matched, and the order is the same from both sides. -/
theorem misses_nan :
    let engine : Engine :=
      { config := {}, registry := .builtin, rules := ⟨[]⟩, patterns := .linear,
        words := .counting 0 }
    let scope : Scope := { character := .object [("name", .string "Nan")] }
    ((engine.render scope
      "\x7b\x7bSWITCH:name,Nan,hers,someone\x7d\x7d".toList).on {}).1 = .ok "someone".toList ∧
    looselyEqual (.string "Nan") (.string "Nan") = false ∧
    compareLoosely (.string "Nan") (.string "Nan") = .gt ∧
    holds (.array [.string "inf"]) (.string "inf") = false := by
  decide +kernel

end Conditional

end CharacterSheet
