import Mathlib.Data.List.Sort
import Mathlib.Data.String.Basic
import CharacterSheet.Proofs.Success
import CharacterSheet.Proofs.Value.Fields
import CharacterSheet.Value.Path

/-!
# Fields in the order of their keys

Where the keys of an object rise strictly, none of them occurs twice, so looking keys
up tells all that the object holds. Setting fields keeps them in order, and parts of an
ordered value are ordered.
-/

namespace CharacterSheet

namespace Fields

variable {key : String} {value : Value} {fields others : Fields}

instance (fields : Fields) : Decidable (Sorted fields) :=
  inferInstanceAs (Decidable (List.Pairwise _ fields))

namespace Sorted

theorem tail
    {field : String × Value}
    (sorted : Sorted (field :: fields)) :
    Sorted fields :=
  (List.pairwise_cons.1 sorted).2

/-- The first key does not occur again. -/
theorem get?_tail
    (sorted : Sorted ((key, value) :: fields)) :
    get? key fields = none := by
  cases found : get? key fields with
  | none => rfl
  | some other =>
      have later := (List.pairwise_cons.1 sorted).1 _ (mem_of_get? found)
      exact absurd later (lt_irrefl key)

/-- Setting a field keeps the order. -/
theorem insert
    (sorted : Sorted fields)
    (key : String)
    (value : Value) :
    Sorted (Fields.insert key value fields) := by
  induction fields with
  | nil => exact List.pairwise_singleton _ _
  | cons field fields inductionHypothesis =>
      obtain ⟨k, v⟩ := field
      obtain ⟨first, rest⟩ := List.pairwise_cons.1 sorted
      unfold Fields.insert
      split
      · next same =>
          subst same
          exact List.pairwise_cons.2 ⟨first, rest⟩
      · next other =>
          split
          · next before =>
              refine List.pairwise_cons.2 ⟨fun field mem => ?_, sorted⟩
              rcases List.mem_cons.1 mem with rfl | later
              · exact before
              · exact lt_trans before (first field later)
          · next notBefore =>
              refine List.pairwise_cons.2 ⟨fun field mem => ?_, inductionHypothesis rest⟩
              rcases mem_insert mem with rfl | old
              · exact lt_of_le_of_ne (not_lt.1 notBefore) other
              · exact first field old

theorem nodup_keys (sorted : fields.Sorted) : (keys fields).Nodup :=
  List.pairwise_map.2 (sorted.imp ne_of_lt)

/-- Where each key occurs once, what is found for the keys is all that there is. -/
theorem mem_iff
    (sorted : fields.Sorted)
    {field : String × Value} :
    field ∈ fields ↔ get? field.1 fields = some field.2 := by
  refine ⟨fun mem => ?_, mem_of_get?⟩
  induction fields with
  | nil => cases mem
  | cons first fields inductionHypothesis =>
      obtain ⟨k, v⟩ := first
      rw [get?_cons]
      rcases List.mem_cons.1 mem with rfl | later
      · exact if_pos rfl
      · have before : k < field.1 := (List.pairwise_cons.1 sorted).1 _ later
        rw [if_neg before.ne]
        exact inductionHypothesis sorted.tail later

theorem filter
    (sorted : fields.Sorted)
    (keep : String × Value → Bool) :
    Sorted (fields.filter keep) :=
  List.Pairwise.filter keep sorted

/-- Fields in order are the same if the same is among them. -/
theorem eq_of_mem_iff
    (sorted : fields.Sorted)
    (othersSorted : others.Sorted)
    (same : ∀ field, field ∈ fields ↔ field ∈ others) :
    fields = others := by
  have irreflexive : Std.Irrefl fun one other : String × Value => one.1 < other.1 :=
    ⟨fun field => lt_irrefl field.1⟩
  have antisymmetric : Std.Antisymm fun one other : String × Value => one.1 < other.1 :=
    ⟨fun _ _ before after => absurd (before.trans after) (lt_irrefl _)⟩
  exact List.Pairwise.eq_of_mem_iff sorted othersSorted same

end Sorted

/-- Of fields that are set, those found are the new ones first. -/
theorem get?_insertAll
    {new : Fields}
    (sorted : Sorted new)
    (key : String)
    (fields : Fields) :
    get? key (insertAll new fields) = (get? key new).or (get? key fields) := by
  induction new generalizing fields with
  | nil => rfl
  | cons field new inductionHypothesis =>
      obtain ⟨k, v⟩ := field
      have later := inductionHypothesis sorted.tail (Fields.insert k v fields)
      rw [get?_insert] at later
      refine later.trans ?_
      rw [get?_cons]
      split
      · next same =>
          subst same
          rw [sorted.get?_tail]
          rfl
      · rfl

end Fields

namespace Value

mutual

instance decidableOrdered : (value : Value) → Decidable value.Ordered
  | .array items => decidableAllOrdered items
  | .object fields =>
    have := decidableFieldsOrdered fields
    inferInstanceAs (Decidable (Fields.Sorted fields ∧ FieldsOrdered fields))
  | .null | .boolean _ | .number _ | .string _ => inferInstanceAs (Decidable True)

instance decidableAllOrdered : (items : List Value) → Decidable (AllOrdered items)
  | [] => inferInstanceAs (Decidable True)
  | item :: items =>
    have := decidableOrdered item
    have := decidableAllOrdered items
    inferInstanceAs (Decidable (item.Ordered ∧ AllOrdered items))

instance decidableFieldsOrdered :
    (fields : List (String × Value)) → Decidable (FieldsOrdered fields)
  | [] => inferInstanceAs (Decidable True)
  | (_, value) :: fields =>
    have := decidableOrdered value
    have := decidableFieldsOrdered fields
    inferInstanceAs (Decidable (value.Ordered ∧ FieldsOrdered fields))

end

theorem allOrdered_iff
    {items : List Value} :
    AllOrdered items ↔ ∀ item ∈ items, item.Ordered := by
  induction items with
  | nil => simp [AllOrdered]
  | cons item items inductionHypothesis => simp [AllOrdered, inductionHypothesis]

theorem fieldsOrdered_iff
    {fields : Fields} :
    FieldsOrdered fields ↔ ∀ field ∈ fields, field.2.Ordered := by
  induction fields with
  | nil => simp [FieldsOrdered]
  | cons field fields inductionHypothesis =>
      simp [FieldsOrdered, inductionHypothesis]

@[simp] theorem ordered_array
    {items : List Value} :
    (array items).Ordered ↔ ∀ item ∈ items, item.Ordered :=
  allOrdered_iff

@[simp] theorem ordered_object
    {fields : Fields} :
    (object fields).Ordered ↔ fields.Sorted ∧ ∀ field ∈ fields, field.2.Ordered := by
  rw [Ordered, fieldsOrdered_iff]

namespace Ordered

variable {value part : Value}

theorem get?
    {fields : Fields}
    (ordered : (object fields).Ordered)
    {key : String}
    (found : Fields.get? key fields = some part) :
    part.Ordered :=
  (ordered_object.1 ordered).2 _ (Fields.mem_of_get? found)

theorem insert
    {fields : Fields}
    (ordered : (object fields).Ordered)
    (partOrdered : part.Ordered)
    (key : String) :
    (object (Fields.insert key part fields)).Ordered := by
  obtain ⟨sorted, each⟩ := ordered_object.1 ordered
  refine ordered_object.2 ⟨sorted.insert key part, fun field mem => ?_⟩
  rcases Fields.mem_insert mem with rfl | old
  · exact partOrdered
  · exact each field old

theorem field?
    (ordered : value.Ordered)
    {key : String}
    (found : value.field? key = some part) :
    part.Ordered := by
  cases value with
  | object fields => exact ordered.get? found
  | _ => cases found

theorem step
    (ordered : value.Ordered)
    {reference segment : String}
    {walked : Path}
    (stepped : Value.step reference walked segment value = .ok part) :
    part.Ordered := by
  unfold Value.step at stepped
  split at stepped
  · split at stepped
    · next found =>
        cases stepped
        exact ordered.get? found
    · cases stepped
  · split at stepped
    · next found =>
        cases stepped
        exact ordered_array.1 ordered _ (List.mem_of_find?_eq_some found)
    · cases stepped
  · cases stepped

/-- What a path leads to in an ordered value is ordered. -/
theorem followFrom
    (ordered : value.Ordered)
    {reference : String}
    {walked path : Path}
    (followed : Value.followFrom reference walked value path = .ok part) :
    part.Ordered := by
  induction path generalizing value walked with
  | nil =>
      cases followed
      exact ordered
  | cons segment path inductionHypothesis =>
      obtain ⟨next, stepped, rest⟩ := bind_eq_ok_iff.1 followed
      exact inductionHypothesis (ordered.step stepped) rest

end Ordered

end Value
end CharacterSheet
