import CharacterSheet.Proofs.Value.Duplicates
import CharacterSheet.Proofs.Value.Ordered

/-!
# Deep layers

One value over another holds at every path what the upper one holds there, joined with
what the lower one holds. Where the upper one leaves a path open, the lower one shows
through, and everywhere else there is nothing (`Value.at?_beneath`).
-/

namespace CharacterSheet

namespace Value

/-- What a value holds at a path of keys. Only objects are entered. -/
def at? : Path → Value → Option Value
  | [], value => some value
  | key :: path, value => (value.field? key).bind (at? path)

@[simp] theorem at?_nil (value : Value) : value.at? [] = some value := rfl

theorem at?_cons (key : String) (path : Path) (value : Value) :
    value.at? (key :: path) = (value.field? key).bind (at? path) := rfl

theorem at?_append (first second : Path) (value : Value) :
    value.at? (first ++ second) = (value.at? first).bind (at? second) := by
  induction first generalizing value with
  | nil => rfl
  | cons key first inductionHypothesis =>
      rw [List.cons_append, at?_cons, at?_cons, Option.bind_assoc]
      exact congrArg (Option.bind _) (funext inductionHypothesis)

/-- Whether a value has fields. -/
def IsObject : Value → Prop
  | .object _ => True
  | _ => False

/-- Whether a value has neither fields nor elements. -/
def IsScalar : Value → Prop
  | .object _ | .array _ => False
  | _ => True

theorem at?_of_not_isObject
    {value : Value}
    (plain : ¬ value.IsObject)
    {path : Path}
    (deeper : path ≠ []) :
    value.at? path = none := by
  cases path with
  | nil => exact absurd rfl deeper
  | cons key path =>
      cases value with
      | object fields => exact absurd trivial plain
      | _ => rfl

/-- Whether a value leaves a path open: it has nothing there, and what it has on the way
are objects. -/
def leavesOpen : Path → Value → Bool
  | key :: path, .object fields =>
    match Fields.get? key fields with
    | some value => leavesOpen path value
    | none => true
  | _, _ => false

theorem leavesOpen_of_objects
    {path : Path}
    {value : Value}
    (absent : value.at? path = none)
    (objects : ∀ before, before <+: path → ∀ part, value.at? before = some part → part.IsObject) :
    value.leavesOpen path = true := by
  induction path generalizing value with
  | nil => cases absent
  | cons key path inductionHypothesis =>
      have isObject := objects [] List.nil_prefix value rfl
      cases value with
      | object fields =>
          rw [leavesOpen]
          split
          · next next found =>
              rw [at?_cons, field?, found] at absent
              refine inductionHypothesis absent fun before within part held => ?_
              refine objects (key :: before) (List.cons_prefix_cons.2 ⟨rfl, within⟩) part ?_
              rw [at?_cons, field?, found]
              exact held
          · rfl
      | _ => cases isObject

theorem isObject_of_leavesOpen
    {before rest : Path}
    {value part : Value}
    (isOpen : value.leavesOpen (before ++ rest) = true)
    (held : value.at? before = some part) :
    part.IsObject := by
  induction before generalizing value with
  | nil =>
      cases held
      cases part with
      | object fields => trivial
      | _ => cases rest <;> cases isOpen
  | cons key before inductionHypothesis =>
      cases value with
      | object fields =>
          rw [at?_cons, field?] at held
          obtain ⟨next, found, held⟩ := Option.bind_eq_some_iff.1 held
          rw [List.cons_append, leavesOpen, found] at isOpen
          exact inductionHypothesis isOpen held
      | _ => cases held

/-- A value over what lies beneath it, if anything does. -/
def beneath? (rule? : Option Value) (value : Value) : Value :=
  match rule? with
  | some rule => beneath rule value
  | none => value

theorem beneath?_of_isScalar
    (rule? : Option Value)
    {value : Value}
    (isScalar : value.IsScalar) :
    beneath? rule? value = value := by
  cases rule? with
  | none => rfl
  | some rule =>
      cases value with
      | object | array => cases isScalar
      | _ => rfl

theorem isObject_beneath?
    (rule? : Option Value)
    {value : Value}
    (isObject : value.IsObject) :
    (beneath? rule? value).IsObject := by
  cases rule? with
  | none => exact isObject
  | some rule =>
      cases value with
      | object fields => cases rule <;> exact trivial
      | _ => cases isObject

/-- Of layered fields, those of the upper object lie over those of the lower one. -/
theorem get?_fieldsBeneath
    {base top : Fields}
    (sorted : top.Sorted)
    (key : String) :
    Fields.get? key (fieldsBeneath base top) =
      match Fields.get? key top with
      | some value => some (beneath? (Fields.get? key base) value)
      | none => Fields.get? key base := by
  induction top generalizing base with
  | nil => rfl
  | cons field top inductionHypothesis =>
      obtain ⟨k, v⟩ := field
      have merged : fieldsBeneath base ((k, v) :: top) =
          fieldsBeneath (Fields.insert k (beneath? (Fields.get? k base) v) base) top := by
        rw [fieldsBeneath]
        rfl
      rw [merged, inductionHypothesis sorted.tail, Fields.get?_insert, Fields.get?_cons]
      by_cases same : k = key
      · subst same
        rw [if_pos rfl, if_pos rfl, sorted.get?_tail]
      · rw [if_neg same, if_neg same]

/-- A field of an object over another value. -/
theorem field?_beneath
    {top : Fields}
    (sorted : top.Sorted)
    (rule : Value)
    (key : String) :
    (beneath rule (.object top)).field? key =
      match Fields.get? key top with
      | some value => some (beneath? (rule.field? key) value)
      | none => rule.field? key := by
  cases rule with
  | object base =>
      rw [beneath]
      exact get?_fieldsBeneath sorted key
  | _ =>
      rw [beneath]
      · cases found : Fields.get? key top <;> simp [field?, found, beneath?]
      · rintro base ⟨⟩

/-- At every path a layered value holds what the upper value holds over what the lower one
holds. Where the upper one has nothing, the lower one shows if the path is left open. -/
theorem at?_beneath
    {top : Value}
    (ordered : top.Ordered)
    (rule : Value)
    (path : Path) :
    (beneath rule top).at? path =
      match top.at? path with
      | some value => some (beneath? (rule.at? path) value)
      | none => if top.leavesOpen path then rule.at? path else none := by
  induction path generalizing rule top with
  | nil => rfl
  | cons key path inductionHypothesis =>
      cases top with
      | object fields =>
          rw [at?_cons, at?_cons, at?_cons, field?_beneath (ordered_object.1 ordered).1, field?,
            leavesOpen]
          cases found : Fields.get? key fields with
          | none => rfl
          | some next =>
              cases lower : rule.field? key with
              | none => cases reached : at? path next <;> simp [beneath?, reached]
              | some base => exact inductionHypothesis (ordered.get? found) base
      | array items => cases rule <;> rfl
      | _ => rfl

mutual

theorem ordered_beneath
    {rule : Value}
    (ruleOrdered : rule.Ordered) :
    (top : Value) → top.Ordered → (beneath rule top).Ordered
  | .object top, ordered => by
      cases rule with
      | object base =>
          rw [beneath]
          exact ordered_fieldsBeneath ruleOrdered top (ordered_object.1 ordered).2
      | _ => exact ordered
  | .array top, ordered => by
      cases rule with
      | array base =>
          refine ordered_array.2 fun item mem => ?_
          rcases List.mem_append.1 (unique_subset _ mem) with lower | upper
          · exact ordered_array.1 ruleOrdered item lower
          · exact ordered_array.1 ordered item upper
      | _ => exact ordered
  | .null, ordered | .boolean _, ordered | .number _, ordered | .string _, ordered => ordered

theorem ordered_fieldsBeneath
    {base : Fields}
    (baseOrdered : (object base).Ordered) :
    (top : List (String × Value)) → (∀ field ∈ top, field.2.Ordered) →
      (object (fieldsBeneath base top)).Ordered
  | [], _ => baseOrdered
  | (key, value) :: top, each => by
      have valueOrdered := each _ List.mem_cons_self
      rw [fieldsBeneath]
      refine ordered_fieldsBeneath (baseOrdered.insert ?_ key) top
        fun field mem => each field (List.mem_cons_of_mem _ mem)
      split
      · next existing found => exact ordered_beneath (baseOrdered.get? found) value valueOrdered
      · exact valueOrdered

end

/-- What a value holds in which the upper one of two values lies over the lower one, path by
path. -/
structure Layers (lower upper merged : Value) : Prop where
  /-- A scalar covers what lies beneath it. -/
  scalar : ∀ path value, upper.at? path = some value → value.IsScalar →
    merged.at? path = some value
  /-- Where the upper value has an object, there is one. -/
  object : ∀ path value, upper.at? path = some value → value.IsObject →
    ∃ whole, merged.at? path = some whole ∧ whole.IsObject
  /-- An array is joined to an array that lies beneath it, and covers anything else. -/
  array : ∀ path items, upper.at? path = some (.array items) →
    merged.at? path =
      match lower.at? path with
      | some (.array base) => some (.array (concatUnique base items))
      | _ => some (.array items)
  /-- Where the upper value has nothing, the lower one shows through objects. -/
  absent : ∀ path, upper.at? path = none →
    (∀ before, before <+: path → ∀ value, upper.at? before = some value →
      value.IsObject ∧ ∃ base, lower.at? before = some base ∧ base.IsObject) →
    merged.at? path = lower.at? path
  /-- Nothing shows past a value of either that is no object. -/
  covered : ∀ before rest value, rest ≠ [] → upper.at? (before ++ rest) = none →
    (upper.at? before = some value ∨ lower.at? before = some value) → ¬ value.IsObject →
    merged.at? (before ++ rest) = none
  /-- Where the upper value has nothing, there is nothing but what the lower one has. -/
  nothingElse : ∀ path value, merged.at? path = some value → upper.at? path = none →
    lower.at? path = some value
  /-- No key occurs twice, so the paths tell all that there is. -/
  ordered : merged.Ordered

/-- Deep layering keeps both sides. -/
theorem layers_beneath
    {rule top : Value}
    (ruleOrdered : rule.Ordered)
    (topOrdered : top.Ordered) :
    Layers rule top (beneath rule top) := by
  have held {path : Path} {value : Value} (found : top.at? path = some value) :
      (beneath rule top).at? path = some (beneath? (rule.at? path) value) := by
    rw [at?_beneath topOrdered, found]
  have missing {path : Path} (absent : top.at? path = none) :
      (beneath rule top).at? path = if top.leavesOpen path then rule.at? path else none := by
    rw [at?_beneath topOrdered, absent]
  refine ⟨?scalar, ?object, ?array, ?absent, ?covered, ?nothingElse, ?ordered⟩
  case scalar =>
    intro path value found isScalar
    rw [held found, beneath?_of_isScalar _ isScalar]
  case object =>
    intro path value found isObject
    exact ⟨_, held found, isObject_beneath? _ isObject⟩
  case array =>
    intro path items found
    rw [held found]
    cases lower : rule.at? path with
    | none => rfl
    | some base => cases base <;> rfl
  case absent =>
    intro path absent objects
    have isOpen := leavesOpen_of_objects absent fun before within part found =>
      (objects before within part found).1
    rw [missing absent, if_pos isOpen]
  case covered =>
    intro before rest value deeper absent found plain
    rw [missing absent]
    split
    · next isOpen =>
        rcases found with upper | lower
        · exact absurd (isObject_of_leavesOpen isOpen upper) plain
        · rw [at?_append, lower]
          exact at?_of_not_isObject plain deeper
    · rfl
  case nothingElse =>
    intro path value found absent
    rw [missing absent] at found
    split at found
    · exact found
    · cases found
  case ordered => exact ordered_beneath ruleOrdered top topOrdered

/-- The record of a trained character over the rule record of the skill. -/
theorem layers_beneath_of_skill :
    let rule : Value :=
      .object
        [("name", .string "Athletics"), ("tags", .array [.string "physical"]),
          ("value", .object [("max", .number (.ofWord 5))])]
    let top : Value :=
      .object
        [("tags", .array [.string "trained", .string "physical"]),
          ("value", .object [("base", .number (.ofWord 2))])]
    Layers rule top (beneath rule top) ∧
      (beneath rule top).at? ["tags"] =
        some (.array [.string "physical", .string "trained"]) ∧
      (beneath rule top).at? ["value", "max"] = some (.number (.ofWord 5)) := by
  intro rule top
  have ruleOrdered : rule.Ordered := by decide +kernel
  have topOrdered : top.Ordered := by decide +kernel
  exact ⟨layers_beneath ruleOrdered topOrdered, rfl, rfl⟩

end Value
end CharacterSheet
