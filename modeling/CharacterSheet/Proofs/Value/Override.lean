import CharacterSheet.Proofs.Value.Ordered
import CharacterSheet.Value.Layer

/-!
# A player's record over a rule record

Of two records that lie one over the other, the player's fields are found first, arrays without
their duplicates. The fields `deviations` and `selectedDeviations` are apart: an array of
deviations is a selection, and an object of them lies over the definitions of the rule.
-/

namespace CharacterSheet
namespace Value

/-- An array without its duplicates, and anything else as it is. -/
def deduplicated : Value → Value
  | .array items => .array (unique items)
  | value => value

/-- The fields of an object, if that is what there is. -/
def entriesOf (value? : Option Value) : Fields :=
  (value?.bind fields?).getD []

/-- The elements of an array, if that is what there is. -/
def itemsOf (value? : Option Value) : List Value :=
  (value?.bind items?).getD []

/-- What a player's `deviations` select: those of an array, each once. -/
def selection? : Value → Option Value
  | .array items => some (.array (unique items))
  | _ => none

/-- What a player's `deviations` make of those of the rule. -/
def redefined (rule? : Option Value) : Value → Option Value
  | .array _ => rule?
  | .object entries => some (.object (Fields.insertAll entries (entriesOf rule?)))
  | value => some value

/-- A field of two records: the player's without duplicates, else the rule's. -/
def layered? (rule player : Value) (field : String) : Option Value :=
  ((player.field? field).map deduplicated).or (rule.field? field)

/-- The deviations that two records define. -/
def definitions? (rule player : Value) : Option Value :=
  (player.field? "deviations").elim (rule.field? "deviations")
    (redefined (rule.field? "deviations"))

/-- The deviations that are selected: by the player, in a field of their own or among the
deviations, or else by the rule. -/
def selected? (rule player : Value) : Option Value :=
  ((player.field? "selectedDeviations").map deduplicated).or
    (((player.field? "deviations").bind selection?).or (rule.field? "selectedDeviations"))

/-- The fields that are not overridden like all others. -/
def deviationFields : List String := ["deviations", "selectedDeviations"]

section Override

variable {field key : String} {value : Value} {fields top : Fields}

/-- A field that is overridden changes alone. -/
theorem get?_overrideField
    (ordinary : field ∉ deviationFields) :
    Fields.get? field (overrideField fields key value) =
      if key = field then some value.deduplicated else Fields.get? field fields := by
  simp only [deviationFields, List.mem_cons, List.not_mem_nil, or_false, not_or] at ordinary
  obtain ⟨notDefinitions, notSelection⟩ := ordinary
  by_cases definitions : key = "deviations"
  · subst definitions
    cases value <;>
      simp [overrideField, Fields.get?_insert, Ne.symm notDefinitions, Ne.symm notSelection]
  · cases value <;> simp [overrideField, Fields.get?_insert, definitions, deduplicated]

theorem get?_deviations_overrideField :
    Fields.get? "deviations" (overrideField fields key value) =
      if key = "deviations" then value.redefined (Fields.get? "deviations" fields)
      else Fields.get? "deviations" fields := by
  by_cases definitions : key = "deviations"
  · subst definitions
    cases value <;> simp [overrideField, Fields.get?_insert, redefined, entriesOf]
  · cases value <;> simp [overrideField, Fields.get?_insert, definitions]

theorem get?_selectedDeviations_overrideField :
    Fields.get? "selectedDeviations" (overrideField fields key value) =
      if key = "selectedDeviations" then some value.deduplicated
      else if key = "deviations" then
        value.selection?.or (Fields.get? "selectedDeviations" fields)
      else Fields.get? "selectedDeviations" fields := by
  by_cases definitions : key = "deviations"
  · subst definitions
    cases value <;> simp [overrideField, Fields.get?_insert, selection?]
  · by_cases selection : key = "selectedDeviations"
    · subst selection
      cases value <;> simp [overrideField, deduplicated]
    · cases value <;> simp [overrideField, Fields.get?_insert, definitions, selection]

/-- Where every field changes what is found for its own key, each key is changed once. -/
theorem get?_foldl_overrideField
    (change : Option Value → Value → Option Value)
    (changes : ∀ fields key value, Fields.get? field (overrideField fields key value) =
      if key = field then change (Fields.get? field fields) value else Fields.get? field fields)
    (sorted : top.Sorted) :
    Fields.get? field
        (top.foldl (fun fields (key, value) => overrideField fields key value) fields) =
      (Fields.get? field top).elim (Fields.get? field fields)
        (change (Fields.get? field fields)) := by
  induction top generalizing fields with
  | nil => rfl
  | cons first top inductionHypothesis =>
      obtain ⟨key, value⟩ := first
      rw [List.foldl_cons, inductionHypothesis sorted.tail, changes, Fields.get?_cons]
      by_cases same : key = field
      · subst same
        simp [sorted.get?_tail]
      · simp [same]

/-- A selection of its own comes after the deviations, and so counts before a selection among
them. -/
theorem get?_selectedDeviations_foldl
    (sorted : top.Sorted) :
    Fields.get? "selectedDeviations"
        (top.foldl (fun fields (key, value) => overrideField fields key value) fields) =
      ((Fields.get? "selectedDeviations" top).map deduplicated).or
        (((Fields.get? "deviations" top).bind selection?).or
          (Fields.get? "selectedDeviations" fields)) := by
  induction top generalizing fields with
  | nil => rfl
  | cons first top inductionHypothesis =>
      obtain ⟨key, value⟩ := first
      rw [List.foldl_cons, inductionHypothesis sorted.tail, get?_selectedDeviations_overrideField,
        Fields.get?_cons, Fields.get?_cons]
      by_cases selection : key = "selectedDeviations"
      · subst selection
        have passed : Fields.get? "deviations" top = none := by
          cases found : Fields.get? "deviations" top with
          | none => rfl
          | some deviations =>
              have later : "selectedDeviations" < "deviations" :=
                (List.pairwise_cons.1 sorted).1 _ (Fields.mem_of_get? found)
              exact absurd later (by decide)
        simp [sorted.get?_tail, passed]
      · by_cases definitions : key = "deviations"
        · subst definitions
          simp [sorted.get?_tail]
        · simp [selection, definitions]

end Override

section Layers

variable {rule player : Value}

theorem field?_eq_get?_fields
    (value : Value)
    (field : String) :
    value.field? field = Fields.get? field (value.fields?.getD []) := by
  cases value <;> rfl

theorem Ordered.sorted_fields
    (ordered : player.Ordered) :
    Fields.Sorted (player.fields?.getD []) := by
  cases player with
  | object fields => exact (ordered_object.1 ordered).1
  | _ => exact List.Pairwise.nil

theorem get?_advantageOver
    (ordered : player.Ordered)
    {field : String}
    (ordinary : field ∉ deviationFields) :
    Fields.get? field (advantageOver rule player) = layered? rule player field := by
  unfold advantageOver layered?
  rw [field?_eq_get?_fields, field?_eq_get?_fields]
  refine (get?_foldl_overrideField (fun _ value => some value.deduplicated)
    (fun _ _ _ => get?_overrideField ordinary) ordered.sorted_fields).trans ?_
  cases Fields.get? field (player.fields?.getD []) <;> rfl

theorem get?_deviations_advantageOver
    (ordered : player.Ordered) :
    Fields.get? "deviations" (advantageOver rule player) = definitions? rule player := by
  unfold advantageOver definitions?
  rw [field?_eq_get?_fields, field?_eq_get?_fields]
  exact get?_foldl_overrideField redefined (fun _ _ _ => get?_deviations_overrideField)
    ordered.sorted_fields

theorem get?_selectedDeviations_advantageOver
    (ordered : player.Ordered) :
    Fields.get? "selectedDeviations" (advantageOver rule player) = selected? rule player := by
  unfold advantageOver selected?
  rw [field?_eq_get?_fields, field?_eq_get?_fields, field?_eq_get?_fields]
  exact get?_selectedDeviations_foldl ordered.sorted_fields

/-- A definition is the player's if the player's deviations define it, else the rule's. What the
deviations hold has to be definitions or a selection. -/
theorem get?_entriesOf_definitions?
    (ordered : player.Ordered)
    (areEntries : ∀ value, definitions? rule player = some value →
      ∃ entries, value = .object entries)
    (name : String) :
    Fields.get? name (entriesOf (definitions? rule player)) =
      (Fields.get? name (entriesOf (player.field? "deviations"))).or
        (Fields.get? name (entriesOf (rule.field? "deviations"))) := by
  unfold definitions? at areEntries ⊢
  cases found : player.field? "deviations" with
  | none => rfl
  | some deviations =>
      rw [found] at areEntries
      cases deviations with
      | array items => rfl
      | object entries =>
          have sorted := (ordered_object.1 (ordered.field? found)).1
          exact Fields.get?_insertAll sorted name _
      | _ =>
          obtain ⟨entries, same⟩ := areEntries _ rfl
          cases same

end Layers
end Value
end CharacterSheet
