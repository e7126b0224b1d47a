import CharacterSheet.Proofs.Value.Beneath
import CharacterSheet.Value.Rating

/-!
# Ratings of layered records

A record keeps its rating at the first of a few paths that holds a number
(`Value.rating?_object`). Layered over a rule record it keeps its own rating, unless the
rule record has a number at a path that is preferred to that of the own rating and that
the record leaves open: then the first such number shadows the own rating
(`Value.rating?_beneath`).
-/

namespace CharacterSheet

/-- Where the first of two looks succeeds in the end, the two together give the first hit of
the second look before that, if there is one. -/
theorem findSome?_or
    {α β : Type}
    {first second : α → Option β}
    {items : List α}
    {result : β}
    (found : items.findSome? first = some result) :
    items.findSome? (fun item => (first item).or (second item)) =
      some (((items.takeWhile fun item => (first item).isNone).findSome? second).getD result) := by
  induction items with
  | nil => cases found
  | cons item items inductionHypothesis =>
      rw [List.findSome?_cons] at found ⊢
      cases hit : first item with
      | some own =>
          rw [hit] at found
          cases found
          simp [hit]
      | none =>
          rw [hit] at found
          rw [List.takeWhile_cons_of_pos (by simp [hit]), List.findSome?_cons]
          cases other : second item with
          | some value => rfl
          | none => exact inductionHypothesis found

namespace Value

/-- The number that a value holds at a path. -/
def numberAt? (path : Path) (value : Value) : Option Float := (value.at? path).bind float?

/-- The paths at which a record may hold its rating, the preferred one first: its `value`, the
fields of a `value` object, and the fields of the record itself. -/
def ratingPaths : List Path :=
  ["value"] :: (ratingFields false).map (fun field => ["value", field]) ++
    (ratingFields false).map fun field => [field]

theorem findSome?_fields (names : List String) (value : Value) :
    (names.map fun field => [field]).findSome? (numberAt? · value) = value.firstNumber? names := by
  rw [List.findSome?_map]
  unfold firstNumber?
  refine congrArg (List.findSome? · names) (funext fun field => ?_)
  rw [Function.comp_apply, numberAt?, at?_cons]
  cases value.field? field <;> rfl

theorem findSome?_fields_below (names : List String) (key : String) (value : Value) :
    (names.map fun field => [key, field]).findSome? (numberAt? · value) =
      (value.field? key).bind (firstNumber? names) := by
  rw [List.findSome?_map]
  cases found : value.field? key with
  | none => simp [Function.comp_def, numberAt?, at?_cons, found]
  | some part =>
      rw [Option.bind_some, ← findSome?_fields, List.findSome?_map]
      refine congrArg (List.findSome? · names) (funext fun field => ?_)
      simp only [Function.comp_apply, numberAt?, at?_cons key, found, Option.bind_some]

/-- The rating of a record is the first number on the paths of ratings. -/
theorem rating?_object (fields : Fields) :
    (object fields).rating? false = ratingPaths.findSome? (numberAt? · (object fields)) := by
  have below := findSome?_fields_below (ratingFields false) "value" (object fields)
  have own := findSome?_fields (ratingFields false) (object fields)
  rw [ratingPaths, List.findSome?_append, List.findSome?_cons, below, own, numberAt?, at?_cons,
    rating?, objectRating?]
  cases (object fields).field? "value" with
  | none => rfl
  | some part =>
      cases part with
      | _ => rfl

theorem at?_of_leavesOpen
    {path : Path}
    {value : Value}
    (isOpen : value.leavesOpen path = true) :
    value.at? path = none := by
  induction path generalizing value with
  | nil => cases isOpen
  | cons key path inductionHypothesis =>
      cases value with
      | object fields =>
          rw [leavesOpen] at isOpen
          rw [at?_cons, field?]
          cases found : Fields.get? key fields with
          | none => rfl
          | some next =>
              rw [found] at isOpen
              exact inductionHypothesis isOpen
      | _ => cases isOpen

theorem float?_beneath? (rule? : Option Value) (value : Value) :
    (beneath? rule? value).float? = value.float? := by
  cases value with
  | object | array => cases rule? with
    | none => rfl
    | some rule => cases rule <;> rfl
  | _ => cases rule? <;> rfl

/-- The number of a rule record at a path that the record over it leaves open. -/
def shownNumber? (rule own : Value) (path : Path) : Option Float :=
  if own.leavesOpen path then rule.numberAt? path else none

theorem numberAt?_beneath
    {own : Value}
    (ordered : own.Ordered)
    (rule : Value)
    (path : Path) :
    (beneath rule own).numberAt? path = (own.numberAt? path).or (shownNumber? rule own path) := by
  unfold numberAt? shownNumber?
  rw [at?_beneath ordered]
  cases held : own.at? path with
  | none =>
      by_cases isOpen : own.leavesOpen path = true
      · simp [isOpen, numberAt?]
      · simp [isOpen]
  | some value =>
      have closed : own.leavesOpen path = false := by
        cases isOpen : own.leavesOpen path with
        | false => rfl
        | true => cases held.symm.trans (at?_of_leavesOpen isOpen)
      simp [closed, float?_beneath?]

/-- The number of a rule record that shadows the rating of the record over it: the first on
the paths before that of the rating, of those that the record leaves open. -/
def shadow? (rule own : Value) : Option Float :=
  (ratingPaths.takeWhile fun path => (own.numberAt? path).isNone).findSome? (shownNumber? rule own)

/-- A record over a rule record has its own rating, or else the number that shadows it. -/
theorem rating?_beneath
    {fields : Fields}
    {rating : Float}
    (ordered : (object fields).Ordered)
    (rated : (object fields).rating? false = some rating)
    (rule : Value) :
    (beneath rule (object fields)).rating? false =
      some ((shadow? rule (object fields)).getD rating) := by
  have merged : ∃ all, beneath rule (object fields) = object all := by
    cases rule <;> exact ⟨_, rfl⟩
  obtain ⟨all, isObject⟩ := merged
  rw [rating?_object] at rated
  rw [isObject, rating?_object, ← isObject]
  simp only [numberAt?_beneath ordered]
  exact findSome?_or rated

theorem shadow?_of_not_isObject
    {own : Value}
    (plain : ¬ own.IsObject)
    (rule : Value) :
    shadow? rule own = none := by
  have covered (path : Path) : own.leavesOpen path = false := by
    cases own with
    | object fields => exact absurd trivial plain
    | _ => cases path <;> rfl
  simp [shadow?, shownNumber?, covered]

end Value
end CharacterSheet
