import CharacterSheet.Advantage.Tree
import CharacterSheet.Proofs.Value.Duplicates
import CharacterSheet.Proofs.Value.Fields

/-!
# The texts of a value

A value holds the texts at its leaves; the keys of its objects are not among them.
Parts of a value hold no other texts, and layering one record over another makes no
new ones (`Value.Within.advantageOver`).
-/

namespace CharacterSheet

namespace Value

mutual

/-- The texts that a value holds, from left to right. -/
def texts : Value → List String
  | .string s => [s]
  | .array items => itemsTexts items
  | .object fields => fieldsTexts fields
  | _ => []

/-- The texts that the elements hold. -/
def itemsTexts : List Value → List String
  | [] => []
  | item :: items => texts item ++ itemsTexts items

/-- The texts that the fields hold. -/
def fieldsTexts : List (String × Value) → List String
  | [] => []
  | (_, value) :: fields => texts value ++ fieldsTexts fields

end

mutual

theorem length_texts (value : Value) : value.texts.length = value.textCount := by
  cases value with
  | array items => exact length_itemsTexts items
  | object fields => exact length_fieldsTexts fields
  | string | null | boolean | number => rfl

theorem length_itemsTexts (items : List Value) :
    (itemsTexts items).length = itemsTextCount items := by
  cases items with
  | nil => rfl
  | cons item items =>
      rw [itemsTexts, itemsTextCount, List.length_append, length_texts, length_itemsTexts]

theorem length_fieldsTexts (fields : List (String × Value)) :
    (fieldsTexts fields).length = fieldsTextCount fields := by
  cases fields with
  | nil => rfl
  | cons field fields =>
      rw [fieldsTexts, fieldsTextCount, List.length_append, length_texts, length_fieldsTexts]

end

theorem mem_itemsTexts {text : String} {items : List Value} :
    text ∈ itemsTexts items ↔ ∃ item ∈ items, text ∈ item.texts := by
  induction items with
  | nil => simp [itemsTexts]
  | cons item items inductionHypothesis => simp [itemsTexts, inductionHypothesis]

theorem mem_fieldsTexts {text : String} {fields : List (String × Value)} :
    text ∈ fieldsTexts fields ↔ ∃ field ∈ fields, text ∈ field.2.texts := by
  induction fields with
  | nil => simp [fieldsTexts]
  | cons field fields inductionHypothesis => simp [fieldsTexts, inductionHypothesis]

/-- Every text of the value is one of the given ones. -/
def Within (given : List String) (value : Value) : Prop :=
  ∀ text ∈ value.texts, text ∈ given

end Value

namespace Fields

/-- Every text of the fields is one of the given ones. -/
def Within (given : List String) (fields : Fields) : Prop :=
  ∀ field ∈ fields, field.2.Within given

namespace Within

variable {given : List String} {fields : Fields}

theorem nil : Fields.Within given [] := by
  intro field mem
  cases mem

theorem get?
    (within : fields.Within given)
    {key : String}
    {value : Value}
    (found : Fields.get? key fields = some value) :
    value.Within given :=
  within _ (mem_of_get? found)

theorem insert
    (within : fields.Within given)
    {value : Value}
    (inside : value.Within given)
    (key : String) :
    (Fields.insert key value fields).Within given := by
  intro field mem
  rcases mem_insert mem with rfl | old
  · exact inside
  · exact within field old

theorem insertAll
    (within : fields.Within given)
    {new : Fields}
    (newWithin : new.Within given) :
    (Fields.insertAll new fields).Within given := by
  intro field mem
  exact (mem_insertAll mem).elim (newWithin field) (within field)

end Within

end Fields

namespace Value

variable {given : List String}

@[simp] theorem within_string {s : String} : (string s).Within given ↔ s ∈ given := by
  simp [Within, texts]

@[simp] theorem within_array {items : List Value} :
    (array items).Within given ↔ ∀ item ∈ items, item.Within given := by
  simp only [Within, texts, mem_itemsTexts]
  exact ⟨fun within item mem text held => within text ⟨item, mem, held⟩,
    fun within text ⟨item, mem, held⟩ => within item mem text held⟩

@[simp] theorem within_object {fields : Fields} :
    (object fields).Within given ↔ fields.Within given := by
  simp only [Within, Fields.Within, texts, mem_fieldsTexts]
  exact ⟨fun within field mem text held => within text ⟨field, mem, held⟩,
    fun within text ⟨field, mem, held⟩ => within field mem text held⟩

namespace Within

theorem field?
    {value part : Value}
    (within : value.Within given)
    {key : String}
    (found : value.field? key = some part) :
    part.Within given := by
  cases value with
  | object fields => exact (within_object.1 within).get? found
  | _ => cases found

theorem textField?
    {value : Value}
    (within : value.Within given)
    {key s : String}
    (found : value.textField? key = some s) :
    s ∈ given := by
  unfold Value.textField? at found
  split at found
  · next text isText =>
      split at found
      · cases found
      · cases found
        exact within_string.1 (within.field? isText)
  · cases found

theorem fields
    {value : Value}
    (within : value.Within given) :
    Fields.Within given (value.fields?.getD []) := by
  cases value with
  | object fields => exact within_object.1 within
  | _ => exact .nil

theorem overrideField
    {fields : Fields}
    (within : fields.Within given)
    {value : Value}
    (inside : value.Within given)
    (key : String) :
    (Value.overrideField fields key value).Within given := by
  cases value with
  | array items =>
      have unique : (array (unique items)).Within given := by
        refine within_array.2 fun item mem => ?_
        exact within_array.1 inside item (unique_subset items mem)
      exact within.insert unique _
  | object entries =>
      rw [Value.overrideField]
      split
      · have defined : Fields.Within given
            (((Fields.get? key fields).bind fields?).getD []) := by
          cases found : Fields.get? key fields with
          | none => exact .nil
          | some before => exact (within.get? found).fields
        exact within.insert (within_object.2 (defined.insertAll (within_object.1 inside))) key
      · exact within.insert inside key
  | _ => exact within.insert inside key

/-- A record over another one holds only texts of the two. -/
theorem advantageOver
    {rule player : Value}
    (ruleWithin : rule.Within given)
    (playerWithin : player.Within given) :
    Fields.Within given (Value.advantageOver rule player) := by
  unfold Value.advantageOver
  have topWithin := playerWithin.fields
  have bottomWithin := ruleWithin.fields
  generalize player.fields?.getD [] = top at topWithin
  generalize rule.fields?.getD [] = bottom at bottomWithin
  induction top generalizing bottom with
  | nil => exact bottomWithin
  | cons field top inductionHypothesis =>
      rw [List.foldl_cons]
      exact inductionHypothesis (fun entry mem => topWithin entry (List.mem_cons_of_mem _ mem)) _
        (overrideField bottomWithin (topWithin field List.mem_cons_self) field.1)

end Within

end Value

end CharacterSheet
