import CharacterSheet.Proofs.Advantage.Record

/-!
# The round trip of a record

A record that was read is written with the fields that it was read from, apart from those that say
no more than missing ones (`AdvantageRecord.ReadFrom.toFields_eq_filter`). What is written is read
as the same record (`AdvantageRecord.ReadFrom.toFields`), so nothing is lost by writing a record
and reading it again.
-/

namespace CharacterSheet
namespace AdvantageRecord

variable {kind : AdvantageKind} {fields : Fields} {record : AdvantageRecord} {key : String}

/-- Whether a field says no more than a missing one: it is null where null is the same as none, or
it is an empty collection of deviations. -/
def isIdle : String × Value → Bool
  | (key, .null) => optionalFields.contains key
  | (key, .object []) => key == "deviations"
  | (key, .array []) => key == "selectedDeviations"
  | _ => false

theorem isIdle_definitions (definitions : Fields) :
    isIdle ("deviations", .object definitions) = definitions.isEmpty := by
  cases definitions <;> rfl

theorem isIdle_selection (selected : List Value) :
    isIdle ("selectedDeviations", .array selected) = selected.isEmpty := by
  cases selected <;> rfl

/-- Any other field is idle exactly if it may be missing and holds null. -/
theorem isIdle_eq_false_iff
    {value : Value}
    (ordinary : key ∉ Value.deviationFields) :
    isIdle (key, value) = false ↔ key ∈ optionalFields → value ≠ .null := by
  have notDefinitions : key ≠ "deviations" := by
    rintro rfl
    exact ordinary (by decide)
  have notSelection : key ≠ "selectedDeviations" := by
    rintro rfl
    exact ordinary (by decide)
  unfold isIdle
  split <;> simp_all

/-! ## What is written -/

theorem nonNull_eq_some_iff
    {value? : Option Value}
    {value : Value} :
    nonNull value? = some value ↔ value? = some value ∧ value ≠ .null := by
  rcases value? with _ | found
  · simp [nonNull]
  · cases found <;> cases value <;> simp [nonNull]

theorem present?_eq_some_iff
    {value? : Option Value}
    {value : Value}
    (ordinary : key ∉ Value.deviationFields) :
    present? key value? = some value ↔ value? = some value ∧ isIdle (key, value) = false := by
  rw [isIdle_eq_false_iff ordinary, present?]
  by_cases optional : key ∈ optionalFields
  · rw [if_pos optional, nonNull_eq_some_iff]
    simp [optional]
  · rw [if_neg optional]
    simp [optional]

theorem definitionsValue?_eq_some_iff
    {definitions : Fields}
    (read : definitions? fields = some definitions)
    {value : Value} :
    definitionsValue? definitions = some value ↔
      Fields.get? "deviations" fields = some value ∧ isIdle ("deviations", value) = false := by
  unfold definitions? at read
  split at read
  · next missing =>
      cases read
      simp [missing, definitionsValue?]
  · next found =>
      cases read
      rw [found, definitionsValue?, Option.some.injEq]
      by_cases none : definitions.isEmpty = true
      · rw [if_pos none]
        refine iff_of_false (by simp) ?_
        rintro ⟨rfl, active⟩
        rw [isIdle_definitions, none] at active
        cases active
      · rw [if_neg none, Option.some.injEq, eq_comm]
        refine (and_iff_left_of_imp ?_).symm
        rintro rfl
        rwa [isIdle_definitions, ← Bool.not_eq_true]
  · cases read

theorem selectionValue?_eq_some_iff
    {selected : List Value}
    (read : selection? fields = some selected)
    {value : Value} :
    selectionValue? selected = some value ↔
      Fields.get? "selectedDeviations" fields = some value ∧
        isIdle ("selectedDeviations", value) = false := by
  unfold selection? at read
  split at read
  · next missing =>
      cases read
      simp [missing, selectionValue?]
  · next found =>
      cases read
      rw [found, selectionValue?, Option.some.injEq]
      by_cases none : selected.isEmpty = true
      · rw [if_pos none]
        refine iff_of_false (by simp) ?_
        rintro ⟨rfl, active⟩
        rw [isIdle_selection, none] at active
        cases active
      · rw [if_neg none, Option.some.injEq, eq_comm]
        refine (and_iff_left_of_imp ?_).symm
        rintro rfl
        rwa [isIdle_selection, ← Bool.not_eq_true]
  · cases read

theorem sorted_insertSome
    (sorted : fields.Sorted)
    (key : String)
    (value? : Option Value) :
    Fields.Sorted (insertSome key value? fields) := by
  cases value? with
  | none => exact sorted
  | some value => exact sorted.insert key value

/-- The fields of a record are in order if those are that it carries along. -/
theorem sorted_toFields
    (sorted : record.others.Sorted) :
    record.toFields.Sorted := by
  unfold toFields
  apply Fields.Sorted.insert
  iterate 6 apply sorted_insertSome
  exact sorted

namespace ReadFrom

theorem get?_selectedDeviations_toFields
    (read : record.ReadFrom fields) :
    Fields.get? "selectedDeviations" record.toFields = selectionValue? record.selected := by
  have missing := read.get?_others_of_mem (show "selectedDeviations" ∈ ownFields by decide)
  simp [AdvantageRecord.toFields, Fields.get?_insert, get?_insertSome, missing]

/-- A field is written exactly if it was read and is not idle. -/
theorem get?_toFields_eq_some_iff
    (read : record.ReadFrom fields)
    {value : Value} :
    Fields.get? key record.toFields = some value ↔
      Fields.get? key fields = some value ∧ isIdle (key, value) = false := by
  by_cases ordinary : key ∈ Value.deviationFields
  · simp only [Value.deviationFields, List.mem_cons, List.not_mem_nil, or_false] at ordinary
    rcases ordinary with rfl | rfl
    · rw [read.get?_deviations_toFields]
      exact definitionsValue?_eq_some_iff read.definitions
    · rw [read.get?_selectedDeviations_toFields]
      exact selectionValue?_eq_some_iff read.selection
  · rw [read.get?_toFields ordinary]
    exact present?_eq_some_iff ordinary

/-- What is written is what was read, without the idle fields. -/
theorem toFields_eq_filter
    (read : record.ReadFrom fields)
    (sorted : fields.Sorted) :
    record.toFields = fields.filter fun field => !isIdle field := by
  have carried : record.others.Sorted := read.others ▸ sorted.filter _
  have written : record.toFields.Sorted := sorted_toFields carried
  refine written.eq_of_mem_iff (sorted.filter _) fun field => ?_
  rw [written.mem_iff, List.mem_filter, sorted.mem_iff, read.get?_toFields_eq_some_iff,
    Bool.not_eq_true']

end ReadFrom

/-! ## What is read again -/

theorem optionalText?_of_get?
    {text? : Option String}
    (written : Fields.get? key fields = text?.map Value.string) :
    optionalText? key fields = some text? := by
  unfold optionalText?
  cases text? <;> simp [written]

theorem optionalValue_of_get?
    {value? : Option Value}
    (written : Fields.get? key fields = value?)
    (notNull : nonNull value? = value?) :
    optionalValue key fields = value? := by
  rw [optionalValue_eq, written, notNull]

theorem selection?_of_get?
    {selected : List Value}
    (written : Fields.get? "selectedDeviations" fields = selectionValue? selected) :
    selection? fields = some selected := by
  unfold selection?
  cases selected with
  | nil => simp [written, selectionValue?]
  | cons first rest => simp [written, selectionValue?]

/-- The fields that are not own fields of a record. -/
def carried (fields : Fields) : Fields := fields.filter fun field => !ownFields.contains field.1

theorem carried_insert
    (own : key ∈ ownFields)
    (value : Value) :
    carried (Fields.insert key value fields) = carried fields := by
  induction fields with
  | nil => simp [carried, Fields.insert, own]
  | cons field fields inductionHypothesis =>
      obtain ⟨k, v⟩ := field
      unfold carried at inductionHypothesis ⊢
      unfold Fields.insert
      split
      · next same => simp [same, own]
      · split
        · simp [own]
        · simp only [List.filter_cons, inductionHypothesis]

theorem carried_insertSome
    (own : key ∈ ownFields)
    (value? : Option Value) :
    carried (insertSome key value? fields) = carried fields := by
  cases value? with
  | none => rfl
  | some value => exact carried_insert own value

/-- Of what is written, a record carries along what it carried along before. -/
theorem carried_toFields : carried record.toFields = carried record.others := by
  unfold toFields
  rw [carried_insert (by decide)]
  iterate 6 rw [carried_insertSome (by decide)]

theorem ReadFrom.ofFields?_eq_some
    (read : record.ReadFrom fields) :
    ofFields? fields = some record := by
  obtain ⟨key, name, display, value, effect, definitions, selection, others⟩ := read
  simp only [ofFields?, key, name, display, value, effect, definitions, selection, ← others,
    Option.bind_eq_bind, Option.bind_some, Value.string?]
  rfl

theorem ofValue_eq_ok_iff :
    ofValue kind (.object fields) = .ok record ↔ record.ReadFrom fields := by
  refine ⟨readFrom_of_ofValue, fun read => ?_⟩
  simp only [ofValue, Value.fields?, Option.bind_some, read.ofFields?_eq_some]

/-- What is written of a record is read as the same record. -/
theorem ReadFrom.toFields
    (read : record.ReadFrom fields) :
    record.ReadFrom record.toFields := by
  have name := read.get?_others_of_mem (show "name" ∈ ownFields by decide)
  have display := read.get?_others_of_mem (show "display" ∈ ownFields by decide)
  have value := read.get?_others_of_mem (show "value" ∈ ownFields by decide)
  have effect := read.get?_others_of_mem (show "effect" ∈ ownFields by decide)
  constructor
  case key => simp [AdvantageRecord.toFields]
  case name =>
    refine optionalText?_of_get? ?_
    simp [AdvantageRecord.toFields, Fields.get?_insert, get?_insertSome, name]
  case display =>
    refine optionalText?_of_get? ?_
    simp [AdvantageRecord.toFields, Fields.get?_insert, get?_insertSome, display]
  case value =>
    refine optionalValue_of_get? ?_ ?_
    · simp [AdvantageRecord.toFields, Fields.get?_insert, get?_insertSome, value]
    · rw [← read.value, optionalValue_eq, nonNull_nonNull]
  case effect =>
    refine optionalValue_of_get? ?_ ?_
    · simp [AdvantageRecord.toFields, Fields.get?_insert, get?_insertSome, effect]
    · rw [← read.effect, optionalValue_eq, nonNull_nonNull]
  case definitions => exact definitions?_of_get? read.get?_deviations_toFields
  case selection => exact selection?_of_get? read.get?_selectedDeviations_toFields
  case others =>
    have once : carried record.others = record.others := by
      unfold carried
      rw [read.others, List.filter_filter]
      simp only [Bool.and_self]
    exact (carried_toFields.trans once).symm

/-- A record that can be read is written with the same fields but the idle ones, and what is
written is read, as a record of any kind, as the same record. Putting no fields in place of its own
leaves it as it is. -/
theorem round_trips
    (sorted : fields.Sorted)
    (accepted : ofValue kind (.object fields) = .ok record) :
    record.toFields = (fields.filter fun field => !isIdle field) ∧
      ∀ other, ofValue other (.object record.toFields) = .ok record ∧
        record.overridden other [] = .ok record := by
  have read := readFrom_of_ofValue accepted
  have again (other : AdvantageKind) : ofValue other (.object record.toFields) = .ok record :=
    ofValue_eq_ok_iff.2 read.toFields
  exact ⟨read.toFields_eq_filter sorted, fun other => ⟨again other, rfl⟩⟩

/-- Claws with idle fields of every sort. A null field that is carried along is no idle one, and
neither is an empty array of tags. -/
theorem round_trips_of_idle_fields :
    let fields : Fields :=
      [("deviations", .object []), ("display", .string ""), ("effect", .null),
        ("key", .string "claws"), ("name", .null), ("notes", .null),
        ("selectedDeviations", .array []), ("tags", .array []), ("value", .object [])]
    ∃ record,
      fields.Sorted ∧ ofValue .scar (.object fields) = .ok record ∧
      record.toFields =
        [("display", .string ""), ("key", .string "claws"), ("notes", .null), ("tags", .array []),
          ("value", .object [])] ∧
      ∀ other, ofValue other (.object record.toFields) = .ok record ∧
        record.overridden other [] = .ok record := by
  intro fields
  have sorted : fields.Sorted := by decide +kernel
  let record : AdvantageRecord :=
    { key := "claws"
      display? := some ""
      value? := some (.object [])
      others := [("notes", .null), ("tags", .array [])] }
  have accepted : ofValue .scar (.object fields) = .ok record := by rfl
  obtain ⟨written, again⟩ := round_trips sorted accepted
  exact ⟨record, sorted, accepted, written.trans (by rfl), again⟩

end AdvantageRecord
end CharacterSheet
