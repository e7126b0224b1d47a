import CharacterSheet.Pattern.Linear
import CharacterSheet.Proofs.Notation.Pieces
import CharacterSheet.Proofs.Reference
import CharacterSheet.Proofs.Rendering.Membership
import CharacterSheet.Proofs.Value.Fields

/-!
# Keys that are found

A key of an object is found by `IFIN` where it stands bare in the notation, as long as it is not
read as a number. A number is sought by its text, so a key that is read as one is found exactly if
the text of the number is a key too (`Conditional.finds_bare_key`): `1` is sought as `1.0`.
-/

namespace CharacterSheet

open Value

namespace Text.IsBare

variable {text : Text}

/-- A bare text is no quoted literal. -/
theorem literal?_eq_none (bare : text.IsBare) : Quoted.literal? text = none := by
  unfold Quoted.literal?
  rw [bare.unpadded]
  cases text with
  | nil => rfl
  | cons c text =>
      obtain ⟨notSingle, notDouble⟩ := bare.unquoted c List.mem_cons_self
      simp [Quoted.isQuote, notSingle, notDouble]

/-- A bare text is read as a number or as a reference. -/
theorem value_eq
    (bare : text.IsBare)
    (setting : Setting)
    (scope : Scope) :
    Argument.value setting scope text =
      match Argument.number? text with
      | some n => pure (.number n)
      | none => Script.ofExcept (setting.resolve scope text) := by
  unfold Argument.value
  dsimp only
  rw [bare.unpadded, bare.literal?_eq_none]
  exact if_neg (Bool.eq_false_iff.1 bare.plain.hasNotation_eq_false)

/-- A bare text that refers to nothing stands for the number that it writes, or else for itself. -/
theorem valueOrWord_eq
    (bare : text.IsBare)
    {setting : Setting}
    {scope : Scope}
    (unresolved : ∀ value, setting.resolve scope text ≠ .ok value) :
    Argument.valueOrWord setting scope text =
      pure (match Argument.number? text with
        | some n => .number n
        | none => Value.ofText text) := by
  unfold Argument.valueOrWord
  rw [bare.value_eq, bare.unpadded]
  cases Argument.number? text with
  | some n => rfl
  | none =>
      dsimp only
      rcases failed : setting.resolve scope text with fault | value
      · have kind := Reference.failsOnly_resolve _ _ text fault failed
        cases fault with
        | unresolved => rfl
        | _ => cases kind
      · exact absurd failed (unresolved value)

end Text.IsBare

namespace Fields

/-- The key of a field is contained. -/
theorem contains_of_mem_keys
    {key : String}
    {fields : Fields}
    (present : key ∈ keys fields) :
    contains key fields = true := by
  obtain ⟨field, member, rfl⟩ := List.mem_map.1 present
  obtain ⟨value, found⟩ := exists_get?_of_mem member
  rw [contains, found]
  rfl

end Fields

namespace Conditional

/-- Whether a key of an object is found that stands bare in the notation. A key that is read as a
number is sought by the text of the number. -/
def findsKey (fields : Fields) (key : String) : Bool :=
  match Argument.number? key.toList with
  | some n => Fields.contains (String.ofList n.text) fields
  | none => true

/-- A key is found as it is written if it is no number, or the text of its number. -/
theorem findsKey_of_written
    {fields : Fields}
    {key : String}
    (present : key ∈ Fields.keys fields)
    (written : ∀ n, Argument.number? key.toList = some n → n.text = key.toList) :
    findsKey fields key = true := by
  unfold findsKey
  cases read : Argument.number? key.toList with
  | none => rfl
  | some n =>
      dsimp only
      rw [written n read, String.ofList_toList]
      exact Fields.contains_of_mem_keys present

/-- What is sought for a bare key. -/
theorem holds_bare_key
    {fields : Fields}
    {key : String}
    (present : key ∈ Fields.keys fields) :
    (Value.object fields).holds
        (ratingView (match Argument.number? key.toList with
          | some n => .number n
          | none => Value.ofText key.toList)) =
      findsKey fields key := by
  unfold findsKey
  cases Argument.number? key.toList with
  | some n => rfl
  | none =>
      change Fields.contains (String.ofList key.toList) fields = true
      rw [String.ofList_toList]
      exact Fields.contains_of_mem_keys present

/-- A call with a bare first argument in front of others. -/
theorem evaluate_bare_call
    (engine : Engine)
    (answers : Answers)
    (scope : Scope)
    {name key : Text}
    (isName : Operation.IsName name)
    (rest : Text) :
    engine.evaluate answers scope (name ++ ':' :: (key ++ ',' :: rest)) =
      engine.dispatchWith answers scope (String.ofList name) (key ++ ',' :: Text.trimEnd rest) := by
  unfold Engine.evaluate
  rw [Operation.ofInner_padded_call isName, Text.trimEnd_append_cons (by decide)]

/-- A key of an object is found where it stands bare in the notation and refers to nothing,
exactly unless it is read as a number whose text is not a key. `IFIN` then takes its first branch
and `IFNOTIN` the other one, whichever way the object is given. -/
theorem finds_bare_key
    (engine : Engine)
    (answers : Answers)
    (scope : Scope)
    (known : ∀ conditional : Conditional,
      engine.registry.find? conditional.handler.name = some conditional.handler)
    (fields : Fields)
    (key : String)
    (haystack yes rest : Text)
    (more : List Text)
    (journal after : Journal)
    (present : key ∈ Fields.keys fields)
    (bare : Text.IsBare key.toList)
    (unresolved : ∀ value, engine.resolve scope key.toList ≠ .ok value)
    (written : Arguments.ofContent (Text.trimEnd rest) = haystack :: yes :: more)
    (few : more.length ≤ 1)
    (offered : ((Argument.value engine.setting scope haystack).run answers).on journal =
      (.ok (.object fields), after)) :
    (engine.evaluate answers scope ("IFIN".toList ++ ':' :: (key.toList ++ ',' :: rest))).on
        journal = ((either scope yes more (findsKey fields key)).run answers).on after ∧
    (engine.evaluate answers scope ("IFNOTIN".toList ++ ':' :: (key.toList ++ ',' :: rest))).on
        journal = ((either scope yes more !findsKey fields key).run answers).on after ∧
    ((∀ n, Argument.number? key.toList = some n → n.text = key.toList) →
      findsKey fields key = true) := by
  have arguments : Arguments.ofContent (key.toList ++ ',' :: Text.trimEnd rest) =
      key.toList :: haystack :: yes :: more := by
    rw [Arguments.ofContent_bare bare, written]
  have sought := congrArg (fun script => (script.run answers).on journal)
    (bare.valueOrWord_eq unresolved)
  have member := on_isMember sought offered
  rw [holds_bare_key present] at member
  refine ⟨?_, ?_, findsKey_of_written present⟩
  · rw [evaluate_bare_call _ _ _ ⟨by decide, List.all_eq_true.1 (by decide)⟩]
    exact on_dispatchWith_ifIn (known .ifIn) arguments few member
  · rw [evaluate_bare_call _ _ _ ⟨by decide, List.all_eq_true.1 (by decide)⟩]
    exact on_dispatchWith_ifNotIn (known .ifNotIn) arguments few member

/-- A word that is a key is found, and so is the text of a number. -/
theorem finds_bare_key_of_word :
    let engine : Engine :=
      { config := {}, registry := .builtin, rules := ⟨[]⟩, patterns := .linear,
        words := .counting 0 }
    let answers := engine.answersBy engine.expand
    let fields : Fields := [("2.5", .null), ("fire", .null)]
    let scope : Scope := { character := .object [("all", .object fields)] }
    (engine.evaluate answers scope "IFIN:fire,all,yes,no".toList).on {} =
      ((Argument.text scope "yes".toList).run answers).on {} ∧
    (engine.evaluate answers scope "IFNOTIN:2.5,all,yes,no".toList).on {} =
      ((Argument.text scope "no".toList).run answers).on {} := by
  intro engine answers fields scope
  have fails (text : Text) (failed : (engine.resolve scope text).toOption.isNone = true)
      (value : Value) : engine.resolve scope text ≠ .ok value := by
    intro resolved
    rw [resolved] at failed
    cases failed
  constructor
  · have bare : Text.IsBare "fire".toList :=
      ⟨by simp [Text.IsPlain], by simp, by decide +kernel⟩
    have called := finds_bare_key engine answers scope find?_builtin fields "fire" "all".toList
      "yes".toList "all,yes,no".toList ["no".toList] {} {} (by decide +kernel) bare
      (fails _ (by decide +kernel)) (by decide +kernel) (Nat.le_refl 1) rfl
    exact called.1
  · have bare : Text.IsBare "2.5".toList :=
      ⟨by simp [Text.IsPlain], by simp, by decide +kernel⟩
    have called := finds_bare_key engine answers scope find?_builtin fields "2.5" "all".toList
      "yes".toList "all,yes,no".toList ["no".toList] {} {} (by decide +kernel) bare
      (fails _ (by decide +kernel)) (by decide +kernel) (Nat.le_refl 1) rfl
    exact called.2.1

/-- A level that is written as a whole number is read as a float, and the text of that shows a
point. So the key is not found, though it is there and is nothing else. -/
theorem misses_level :
    let engine : Engine :=
      { config := {}, registry := .builtin, rules := ⟨[]⟩, patterns := .linear,
        words := .counting 0 }
    let levels : Fields := [("1", .string "a")]
    let scope : Scope := { character := .object [("levels", .object levels)] }
    "1" ∈ Fields.keys levels ∧ (engine.resolve scope ['1']).toOption.isNone = true ∧
      ((engine.render scope
        "\x7b\x7bIFIN:1,levels,yes,no\x7d\x7d".toList).on {}).1 = .ok "no".toList ∧
      ((engine.render scope
        "\x7b\x7bIFNOTIN:1,levels,yes,no\x7d\x7d".toList).on {}).1 = .ok "yes".toList := by
  decide +kernel

end Conditional

end CharacterSheet
