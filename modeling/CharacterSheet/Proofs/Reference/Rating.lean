import CharacterSheet.Proofs.Value.Rating
import CharacterSheet.Reference

/-!
# Ratings of traits over rule data

A reference to a trait of the character gives the trait over the rule record of its key.
The trait keeps its rating, whatever its form, unless a number of the rule record shadows
it (`Reference.rating_of_resolve`).
-/

namespace CharacterSheet

namespace Reference

open Value (shadow?)

/-- The reference and the path in the character that a text stands for, if it is neither a
stat of a scar nor a base attribute nor in another scope. -/
def ownPath? (text : Text) : Option (String × Text) :=
  let text := Text.trim text
  let reference := String.ofList text
  let otherwise := text.isEmpty || (ScarStat.ofReference? reference).isSome ||
    (BaseAttribute.ofBaseReference? text).isSome || reference == "this" ||
    ["json.", "this.", "vars."].any fun scope => (Text.after? scope.toList text).isSome
  if otherwise then none
  else
    match Text.after? "context.".toList text with
    | some rest => some (reference, rest)
    | none =>
      match shorthandPath? text with
      | some path => some (String.ofList path, path)
      | none => some (reference, text)

/-- A text that stands for a path in the character is resolved by following it. -/
theorem resolve_of_ownPath?
    {text path : Text}
    {reference : String}
    (named : ownPath? text = some (reference, path))
    (book : RuleBook)
    (scope : Scope) :
    resolve book scope text = characterPath book scope reference path := by
  unfold ownPath? at named
  dsimp only at named
  split at named
  · cases named
  · next plain =>
      simp only [Bool.not_eq_true, Bool.or_eq_false_iff, List.any_cons, List.any_nil,
        Option.isSome_eq_false_iff, Option.isNone_iff_eq_none, beq_eq_false_iff_ne] at plain
      obtain ⟨⟨⟨⟨noEmpty, noStat⟩, noBase⟩, noThis⟩, noJson, noEntity, noVars, -⟩ := plain
      have reached : resolve book scope text = prefixed book scope (Text.trim text) := by
        simp only [resolve, noEmpty, noStat, noBase, Bool.false_eq_true, if_false]
      rw [reached]
      cases inContext : Text.after? "context.".toList (Text.trim text) with
      | some rest =>
          simp only [inContext] at named
          cases named
          simp only [prefixed, noJson, noEntity, noVars, inContext]
      | none =>
          have reached : prefixed book scope (Text.trim text) =
              Reference.plain book scope (Text.trim text) := by
            simp only [prefixed, noJson, noEntity, noVars, inContext, noThis, if_false]
          rw [reached]
          cases short : shorthandPath? (Text.trim text) with
          | some path =>
              simp only [inContext, short] at named
              cases named
              simp only [Reference.plain, short]
          | none =>
              simp only [inContext, short] at named
              cases named
              simp only [Reference.plain, short]

/-- The rule record that lies beneath what is at a path in the character: that of the
category and the key of the path, if the category is known and the path goes into it. -/
def ruleBeneath? (book : RuleBook) : Path → Option Value
  | category :: second :: rest =>
    if RuleBook.isKnown category then
      book.record? category ((second :: rest).getLast (List.cons_ne_nil second rest))
    else none
  | _ => none

/-- The key that a record is given is no rating. -/
theorem rating?_withKey (key : String) (value : Value) :
    (withKey key value).rating? false = value.rating? false := by
  cases value with
  | object fields =>
      rw [withKey]
      split
      · rfl
      · rw [Value.rating?_object, Value.rating?_object]
        simp [Value.ratingPaths, Value.ratingFields, List.findSome?_cons, Value.numberAt?,
          Value.at?_cons, Value.field?, Fields.get?_insert]
  | _ => rfl

/-- A number over a rule record is its rating. -/
theorem rating?_ratedBeneath (rule : Value) (n : Number) :
    (Value.ratedBeneath rule (.number n)).rating? false = some n.toFloat := by
  cases rule with
  | object fields => simp [Value.ratedBeneath, Value.rating?, Value.objectRating?, Value.field?]
  | _ => rfl

/-- A trait over the rule record of its key has its own rating, or else the number that
shadows it. -/
theorem rating?_overRules
    {value : Value}
    {rating : Float}
    (ordered : value.Ordered)
    (rated : value.rating? false = some rating)
    (book : RuleBook)
    (path : Path) :
    (overRules book path value).rating? false =
      some (((ruleBeneath? book path).bind (shadow? · value)).getD rating) := by
  unfold overRules
  split
  · next category second rest =>
      dsimp only
      rw [ruleBeneath?]
      generalize (if RuleBook.isKnown category then _ else none : Option Value) = rule?
      cases rule? with
      | none =>
          cases value with
          | null => exact rated
          | _ => exact (rating?_withKey _ _).trans rated
      | some rule =>
          cases value with
          | number n =>
              cases rated
              rw [rating?_withKey, rating?_ratedBeneath, Option.bind_some,
                Value.shadow?_of_not_isObject id]
              rfl
          | object fields =>
              rw [rating?_withKey]
              exact Value.rating?_beneath ordered rated rule
          | null => exact rated
          | _ =>
              rw [Option.bind_some, Value.shadow?_of_not_isObject id]
              exact (rating?_withKey _ _).trans rated
  · next short =>
      have none : ruleBeneath? book path = none := by
        rcases path with _ | ⟨category, _ | ⟨second, rest⟩⟩
        · rfl
        · rfl
        · exact absurd rfl (short category second rest)
      rw [none]
      exact rated

/-- A reference to a trait of the character that has a rating gives a value with a rating. It
is that of the trait itself, unless the rule record of the trait has a number at a path of
ratings that is preferred and that the trait leaves open: then it is the first such number. -/
theorem rating_of_resolve
    (book : RuleBook)
    {scope : Scope}
    {text pathText : Text}
    {reference : String}
    {path : Path}
    {value : Value}
    {rating : Float}
    (ordered : scope.character.Ordered)
    (named : ownPath? text = some (reference, pathText))
    (read : Path.read reference pathText = .ok path)
    (found : scope.character.follow reference path = .ok value)
    (rated : value.rating? false = some rating) :
    ∃ resolved, resolve book scope text = .ok resolved ∧
      resolved.rating? false =
        some (((ruleBeneath? book path).bind (shadow? · value)).getD rating) := by
  have resolved : resolve book scope text = .ok (overRules book path value) := by
    rw [resolve_of_ownPath? named, characterPath]
    exact bind_eq_ok_iff.2 ⟨path, read, bind_eq_ok_iff.2 ⟨value, found, rfl⟩⟩
  have valueOrdered : value.Ordered := ordered.followFrom found
  exact ⟨_, resolved, rating?_overRules valueOrdered rated book path⟩

/-- A trait of two dots keeps its rating over a rule record with bounds: they stand after the
base, or are no ratings at all. -/
theorem rating_of_resolve_of_bounds :
    let trait : Value := .object [("value", .object [("base", .number (.ofWord 2))])]
    let bounds : Value := .object [("max", .number (.ofWord 5)), ("min", .number (.ofWord 1))]
    let scope : Scope := { character := .object [("skills", .object [("athletics", trait)])] }
    let book : RuleBook :=
      ⟨[("skills", .object [("athletics", .object [("value", bounds)])])]⟩
    ∃ resolved, resolve book scope "skills.athletics".toList = .ok resolved ∧
      resolved.rating? false = some 2.0 := by
  intro trait bounds scope book
  have rated : trait.rating? false = some 2.0 := by decide +kernel
  have kept : (ruleBeneath? book ["skills", "athletics"]).bind (shadow? · trait) = none := by
    decide +kernel
  have ordered : scope.character.Ordered := by decide +kernel
  have named : ownPath? "skills.athletics".toList =
      some ("skills.athletics", "skills.athletics".toList) := rfl
  have read : Path.read "skills.athletics" "skills.athletics".toList =
      .ok ["skills", "athletics"] := rfl
  have found : scope.character.follow "skills.athletics" ["skills", "athletics"] = .ok trait := rfl
  have result := rating_of_resolve book ordered named read found rated
  rwa [kept] at result

/-- A total in the rule record shadows the base of the trait, and a number in place of the
whole rating shadows a trait that keeps its rating in fields of its own. -/
theorem rating_shadowed :
    let two : Value := .object [("base", .number (.ofWord 2))]
    let resolvedRating (trait rule : Value) : Option Float :=
      (resolve ⟨[("skills", .object [("athletics", rule)])]⟩
        { character := .object [("skills", .object [("athletics", trait)])] }
        "skills.athletics".toList).toOption.bind (Value.rating? false)
    let nested : Value := .object [("value", two)]
    let total : Value := .object [("value", .object [("total", .number (.ofWord 5))])]
    let untrained : Value := .object [("value", .number (.ofWord 0))]
    (nested.rating? false = some 2.0 ∧ resolvedRating nested total = some 5.0 ∧
      resolvedRating nested total ≠ nested.rating? false) ∧
    (two.rating? false = some 2.0 ∧ resolvedRating two untrained = some 0.0 ∧
      resolvedRating two untrained ≠ two.rating? false) := by
  decide +kernel

end Reference
end CharacterSheet
