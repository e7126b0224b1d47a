import CharacterSheet.Advantage.Record
import CharacterSheet.Proofs.Success
import CharacterSheet.Proofs.Value.Ordered
import CharacterSheet.Proofs.Value.Override

/-!
# Records as they are read and written

A record that is read and written again has all fields that it was read from, but those that may
be missing are missing where they held null (`AdvantageRecord.get?_toFields`). Fields that are put
in place of its own go the same way (`AdvantageRecord.get?_overridden`).
-/

namespace CharacterSheet
namespace AdvantageRecord

/-- The fields that a record may go without, where null is the same as none. -/
def optionalFields : List String := ["name", "display", "value", "effect"]

/-- A value, where null is none. -/
def nonNull : Option Value → Option Value
  | none | some .null => none
  | some value => some value

theorem nonNull_nonNull (value? : Option Value) : nonNull (nonNull value?) = nonNull value? := by
  rcases value? with _ | value
  · rfl
  · cases value <;> rfl

/-- What a record has for a field that was given a value or none. -/
def present? (field : String) (value? : Option Value) : Option Value :=
  if field ∈ optionalFields then nonNull value? else value?

/-- What is present once is present again. -/
theorem present?_present?
    (field : String)
    (value? : Option Value) :
    present? field (present? field value?) = present? field value? := by
  unfold present?
  split
  · exact nonNull_nonNull value?
  · rfl

/-- What a record holds of the fields that it was read from. -/
structure ReadFrom (fields : Fields) (record : AdvantageRecord) : Prop where
  key : Fields.get? "key" fields = some (.string record.key)
  name : optionalText? "name" fields = some record.name?
  display : optionalText? "display" fields = some record.display?
  value : optionalValue "value" fields = record.value?
  effect : optionalValue "effect" fields = record.effect?
  definitions : definitions? fields = some record.deviations
  selection : selection? fields = some record.selected
  others : record.others = fields.filter fun field => !ownFields.contains field.1

variable {kind : AdvantageKind} {fields overrides : Fields} {record next : AdvantageRecord}
  {field : String}

theorem readFrom_of_ofValue
    (read : ofValue kind (.object fields) = .ok record) :
    record.ReadFrom fields := by
  unfold ofValue at read
  split at read
  · next isRecord =>
      cases read
      simp only [Value.fields?, Option.bind_some, ofFields?, Option.bind_eq_bind,
        Option.bind_eq_some_iff] at isRecord
      obtain ⟨key, ⟨value, found, isText⟩, name?, isName, display?, isDisplay, definitions,
        isDefinitions, selected, isSelected, same⟩ := isRecord
      cases same
      cases value with
      | string text =>
          cases isText
          exact ⟨found, isName, isDisplay, rfl, rfl, isDefinitions, isSelected, rfl⟩
      | _ => cases isText
  · cases read

/-- The definitions that were read are those of the field, if it is there. -/
theorem definitions?_eq_some
    {definitions : Fields}
    (read : definitions? fields = some definitions) :
    definitions = Value.entriesOf (Fields.get? "deviations" fields) := by
  unfold definitions? at read
  split at read
  · next missing =>
      rw [missing, ← Option.some.inj read]
      rfl
  · next found =>
      rw [found, ← Option.some.inj read]
      rfl
  · cases read

/-- The selection that was read is that of the field, if it is there. -/
theorem selection?_eq_some
    {selected : List Value}
    (read : selection? fields = some selected) :
    selected = Value.itemsOf (Fields.get? "selectedDeviations" fields) := by
  unfold selection? at read
  split at read
  · next missing =>
      rw [missing, ← Option.some.inj read]
      rfl
  · next found =>
      rw [found, ← Option.some.inj read]
      rfl
  · cases read

theorem optionalText?_eq_some
    {text? : Option String}
    (read : optionalText? field fields = some text?) :
    text?.map Value.string = nonNull (Fields.get? field fields) := by
  unfold optionalText? at read
  split at read
  · next missing =>
      cases read
      rw [missing]
      rfl
  · next null =>
      cases read
      rw [null]
      rfl
  · next text found =>
      cases read
      rw [found]
      rfl
  · cases read

theorem get?_insertSome
    (key : String)
    (value? : Option Value) :
    Fields.get? field (insertSome key value? fields) =
      if key = field then value?.or (Fields.get? field fields) else Fields.get? field fields := by
  cases value? with
  | none => simp [insertSome]
  | some value => simp [insertSome, Fields.get?_insert]

theorem optionalValue_eq : optionalValue field fields = nonNull (Fields.get? field fields) := by
  unfold optionalValue nonNull
  split <;> simp_all

theorem sameBeyond_insertSome
    {key : String}
    (own : key ∈ ownFields)
    (value? : Option Value)
    {before after : Fields}
    (same : Fields.SameBeyond ownFields before after) :
    Fields.SameBeyond ownFields before (insertSome key value? after) := by
  cases value? with
  | none => exact same
  | some value => exact same.insert own value

/-- Apart from its own fields a record has those that it carries along. -/
theorem sameBeyond_toFields (record : AdvantageRecord) :
    Fields.SameBeyond ownFields record.others record.toFields := by
  unfold toFields
  apply Fields.SameBeyond.insert (by decide)
  iterate 6 apply sameBeyond_insertSome (by decide)
  exact .refl ownFields record.others

namespace ReadFrom

/-- None of the own fields is carried along. -/
theorem get?_others_of_mem
    (read : record.ReadFrom fields)
    (own : field ∈ ownFields) :
    Fields.get? field record.others = none := by
  rw [read.others]
  cases found : Fields.get? field (fields.filter fun field => !ownFields.contains field.1) with
  | none => rfl
  | some value =>
      have kept := (List.mem_filter.1 (Fields.mem_of_get? found)).2
      simp [own] at kept

/-- A record has the fields that it was read from, apart from its own. -/
theorem get?_toFields_of_carried
    (read : record.ReadFrom fields)
    (carried : field ∉ ownFields) :
    Fields.get? field record.toFields = Fields.get? field fields := by
  have kept : (!ownFields.contains field) = true := by simpa using carried
  rw [record.sameBeyond_toFields field carried, read.others]
  exact Fields.get?_filter (fun name => !ownFields.contains name) kept fields

/-- A record has every field that it was read from, unless it may be missing and held null. -/
theorem get?_toFields
    (read : record.ReadFrom fields)
    (ordinary : field ∉ Value.deviationFields) :
    Fields.get? field record.toFields = present? field (Fields.get? field fields) := by
  by_cases own : field ∈ ownFields
  · have missing := read.get?_others_of_mem own
    simp only [ownFields, List.mem_cons, List.not_mem_nil, or_false] at own
    rcases own with rfl | rfl | rfl | rfl | rfl | rfl | rfl
    · rw [read.key]
      simp [toFields, present?, optionalFields]
    · have name := optionalText?_eq_some read.name
      simp [toFields, Fields.get?_insert, get?_insertSome, missing, present?, optionalFields, name]
    · have display := optionalText?_eq_some read.display
      simp [toFields, Fields.get?_insert, get?_insertSome, missing, present?, optionalFields,
        display]
    · have value := optionalValue_eq.symm.trans read.value
      simp [toFields, Fields.get?_insert, get?_insertSome, missing, present?, optionalFields, value]
    · have effect := optionalValue_eq.symm.trans read.effect
      simp [toFields, Fields.get?_insert, get?_insertSome, missing, present?, optionalFields,
        effect]
    · exact absurd (by decide) ordinary
    · exact absurd (by decide) ordinary
  · have mandatory : field ∉ optionalFields := fun optional =>
      own (List.Sublist.subset (by decide) optional)
    rw [read.get?_toFields_of_carried own, present?, if_neg mandatory]

theorem get?_deviations_toFields
    (read : record.ReadFrom fields) :
    Fields.get? "deviations" record.toFields = definitionsValue? record.deviations := by
  have missing := read.get?_others_of_mem (show "deviations" ∈ ownFields by decide)
  simp [toFields, Fields.get?_insert, get?_insertSome, missing]

end ReadFrom

/-- Definitions that are written and read again are the same, also where there are none. -/
theorem definitions?_of_get?
    {definitions : Fields}
    (written : Fields.get? "deviations" fields = definitionsValue? definitions) :
    definitions? fields = some definitions := by
  unfold definitions?
  cases definitions with
  | nil => simp [written, definitionsValue?]
  | cons first rest => simp [written, definitionsValue?]

/-- A record with fields replaced is read from fields as well. -/
theorem exists_readFrom_of_overridden
    (read : record.ReadFrom fields)
    (overridden : record.overridden kind overrides = .ok next) :
    ∃ merged, next.ReadFrom merged := by
  unfold AdvantageRecord.overridden at overridden
  split at overridden
  · cases overridden
    exact ⟨fields, read⟩
  · exact ⟨_, readFrom_of_ofValue overridden⟩

/-- A field that is put in place of others is found first. -/
theorem get?_overridden
    (read : record.ReadFrom fields)
    (sorted : overrides.Sorted)
    (overridden : record.overridden kind overrides = .ok next)
    (ordinary : field ∉ Value.deviationFields) :
    Fields.get? field next.toFields =
      present? field ((Fields.get? field overrides).or (Fields.get? field record.toFields)) := by
  unfold AdvantageRecord.overridden at overridden
  split at overridden
  · next none =>
      cases overridden
      rw [List.isEmpty_iff.1 none, Fields.get?_nil, Option.none_or, read.get?_toFields ordinary,
        present?_present?]
  · rw [(readFrom_of_ofValue overridden).get?_toFields ordinary, Fields.get?_insertAll sorted]

/-- Definitions that are put in place of others are an object. -/
theorem object_of_overridden
    (sorted : overrides.Sorted)
    (overridden : record.overridden kind overrides = .ok next)
    {value : Value}
    (replaced : Fields.get? "deviations" overrides = some value) :
    value = .object next.deviations := by
  unfold AdvantageRecord.overridden at overridden
  split at overridden
  · next none =>
      rw [List.isEmpty_iff.1 none] at replaced
      cases replaced
  · have read := (readFrom_of_ofValue overridden).definitions
    unfold definitions? at read
    rw [Fields.get?_insertAll sorted, replaced] at read
    cases value <;> cases read
    rfl

/-- Where no definitions are put in place of others, they stay. -/
theorem deviations_of_overridden
    (read : record.ReadFrom fields)
    (sorted : overrides.Sorted)
    (overridden : record.overridden kind overrides = .ok next)
    (kept : Fields.get? "deviations" overrides = none) :
    next.deviations = record.deviations := by
  unfold AdvantageRecord.overridden at overridden
  split at overridden
  · cases overridden
    rfl
  · have again := (readFrom_of_ofValue overridden).definitions
    have same : definitions? (Fields.insertAll overrides record.toFields) =
        some record.deviations := by
      refine definitions?_of_get? ?_
      rw [Fields.get?_insertAll sorted, kept, Option.none_or, read.get?_deviations_toFields]
    exact Option.some.inj (again.symm.trans same)

end AdvantageRecord
end CharacterSheet
