import CharacterSheet.Fault
import CharacterSheet.Value.Rating

/-!
# Advantage records

The record of an advantage has a few fields with a meaning of their own and carries all others
along. Reading a record and writing it again (`ofFields?`, `toFields`) loses nothing but null values
of these fields and empty collections of deviations.
-/

namespace CharacterSheet

/-- A record of a merit, a variation or a scar. -/
structure AdvantageRecord where
  key : String
  name? : Option String := none
  display? : Option String := none
  value? : Option Value := none
  effect? : Option Value := none
  /-- The definitions of deviations by name. -/
  deviations : Fields := []
  /-- The deviations that the player selected. -/
  selected : List Value := []
  /-- All other fields. -/
  others : Fields := []

namespace AdvantageRecord

/-- The fields with a meaning of their own. -/
def ownFields : List String :=
  ["key", "name", "display", "value", "effect", "deviations", "selectedDeviations"]

/-- A field that holds text, null, or is missing. -/
def optionalText? (key : String) (fields : Fields) : Option (Option String) :=
  match Fields.get? key fields with
  | none | some .null => some none
  | some (.string s) => some (some s)
  | some _ => none

/-- A field that may hold anything, where null is the same as missing. -/
def optionalValue (key : String) (fields : Fields) : Option Value :=
  match Fields.get? key fields with
  | none | some .null => none
  | some value => some value

/-- The definitions of deviations, an object if there are any. -/
def definitions? (fields : Fields) : Option Fields :=
  match Fields.get? "deviations" fields with
  | none => some []
  | some (.object definitions) => some definitions
  | some _ => none

/-- The selected deviations, an array if there are any. -/
def selection? (fields : Fields) : Option (List Value) :=
  match Fields.get? "selectedDeviations" fields with
  | none => some []
  | some (.array selected) => some selected
  | some _ => none

/-- Reads a record. It has to have a key. -/
def ofFields? (fields : Fields) : Option AdvantageRecord := do
  let key ← (Fields.get? "key" fields).bind Value.string?
  let name? ← optionalText? "name" fields
  let display? ← optionalText? "display" fields
  let deviations ← definitions? fields
  let selected ← selection? fields
  pure
    { key, name?, display?, deviations, selected
      value? := optionalValue "value" fields
      effect? := optionalValue "effect" fields
      others := fields.filter fun field => !ownFields.contains field.1 }

/-- Reads a record; what is none is malformed rule data. -/
def ofValue (kind : AdvantageKind) (value : Value) : Except Fault AdvantageRecord :=
  match (value.fields?).bind ofFields? with
  | some record => .ok record
  | none => .error (.ruleData (.malformed kind ((value.textField? "key").getD "?")))

/-- Sets a field if there is a value for it. -/
def insertSome (key : String) (value? : Option Value) (fields : Fields) : Fields :=
  match value? with
  | some value => Fields.insert key value fields
  | none => fields

/-- The object of the definitions, if there are any. -/
def definitionsValue? (definitions : Fields) : Option Value :=
  if definitions.isEmpty then none else some (.object definitions)

/-- The array of the selected deviations, if there are any. -/
def selectionValue? (selected : List Value) : Option Value :=
  if selected.isEmpty then none else some (.array selected)

/-- All fields of a record. -/
def toFields (record : AdvantageRecord) : Fields :=
  Fields.insert "key" (.string record.key)
    (insertSome "name" (record.name?.map Value.string)
      (insertSome "display" (record.display?.map Value.string)
        (insertSome "value" record.value?
          (insertSome "effect" record.effect?
            (insertSome "deviations" (definitionsValue? record.deviations)
              (insertSome "selectedDeviations" (selectionValue? record.selected)
                record.others))))))

/-- The record with fields put in place of its own. -/
def overridden (kind : AdvantageKind) (overrides : Fields) (record : AdvantageRecord) :
    Except Fault AdvantageRecord :=
  if overrides.isEmpty then .ok record
  else ofValue kind (.object (Fields.insertAll overrides record.toFields))

/-- The name under which the advantage is shown: `display`, else `name`, else the key. -/
def shownName (record : AdvantageRecord) : String :=
  ((record.display?.filter (· ≠ "")).or (record.name?.filter (· ≠ ""))).getD record.key

end AdvantageRecord

/-- A record and what kind of advantage it is. -/
structure Advantage where
  kind : AdvantageKind
  record : AdvantageRecord

namespace Advantage

/-- The rating of a magnitude: of an object, or of the `value` object in it, the first number of
`total`, `base` and `min`; of anything else its rating. -/
def magnitude? (value : Value) : Option Float :=
  match value with
  | .object fields =>
    let inner : Value := match Fields.get? "value" fields with
      | some (.object inner) => .object inner
      | _ => .object fields
    Value.firstNumber? ["total", "base", "min"] inner
  | value => value.rating? false

/-- The rating that the advantage was bought at, if it has one. -/
def rating? (advantage : Advantage) : Option Float :=
  advantage.record.value?.bind fun value =>
    match advantage.kind with
    | .merit => value.rating? false
    | .variation | .scar => magnitude? value

/-- The level at which the advantage was bought: its rating rounded, else 1. -/
def purchaseLevel (advantage : Advantage) : Int :=
  (advantage.rating?.map Rounding.nearestWord).getD 1

end Advantage

end CharacterSheet
