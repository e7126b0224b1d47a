import CharacterSheet.Value.Printer

/-!
# Layers of records

The record of a character lies over the rule record of the same key. There are three ways to see
the two as one: deep layering for references (`beneath`), a bare number over a record
(`ratedBeneath`), and the field-wise override of advantages (`advantageOver`). Lists keep the first
of their duplicates, where records are duplicates by key and other values by their text.
-/

namespace CharacterSheet

namespace Value

/-- What makes an element a duplicate: its key text if it has one, else its compact text. -/
def identity (value : Value) : String :=
  match value.field? "key" with
  | some (.string key) => s!"key:{key}"
  | _ => value.compact

/-- The first element of each identity that is not among the seen ones. -/
def uniqueBeyond (seen : List String) : List Value → List Value
  | [] => []
  | item :: items =>
    if seen.contains item.identity then uniqueBeyond seen items
    else item :: uniqueBeyond (item.identity :: seen) items

/-- The first element of each identity. -/
def unique (items : List Value) : List Value := uniqueBeyond [] items

/-- The elements of both lists, each identity once. -/
def concatUnique (rule top : List Value) : List Value := unique (rule ++ top)

mutual

/-- Layers `rule` beneath a value: objects merge field by field, arrays are joined, and anything
else covers what lies beneath. -/
def beneath (rule : Value) : (top : Value) → Value
  | .object top =>
    match rule with
    | .object base => .object (fieldsBeneath base top)
    | _ => .object top
  | .array top =>
    match rule with
    | .array base => .array (concatUnique base top)
    | _ => .array top
  | top => top

/-- Layers fields beneath those of an object. -/
def fieldsBeneath (base : Fields) : (top : List (String × Value)) → Fields
  | [] => base
  | (key, value) :: top =>
    let merged := match Fields.get? key base with
      | some existing => beneath existing value
      | none => value
    fieldsBeneath (Fields.insert key merged base) top

end

/-- Layers a rule record beneath a bare number: the number becomes the `value` of the record. -/
def ratedBeneath (rule rating : Value) : Value :=
  match rule with
  | .object fields => .object (Fields.insert "value" rating fields)
  | _ => rating

/-- Sets one field of a player's record over a rule record. Arrays lose their duplicates. A
`deviations` array is a selection and is kept apart from the definitions; a `deviations` object
adds definitions or replaces those of the same name. -/
def overrideField (fields : Fields) (key : String) : Value → Fields
  | .array items =>
    let field := if key = "deviations" then "selectedDeviations" else key
    Fields.insert field (.array (unique items)) fields
  | .object entries =>
    if key = "deviations" then
      let defined := ((Fields.get? key fields).bind fields?).getD []
      Fields.insert key (.object (Fields.insertAll entries defined)) fields
    else Fields.insert key (.object entries) fields
  | value => Fields.insert key value fields

/-- The fields of a player's record over those of a rule record. -/
def advantageOver (rule player : Value) : Fields :=
  (player.fields?.getD []).foldl (fun fields (key, value) => overrideField fields key value)
    (rule.fields?.getD [])

end Value

end CharacterSheet
