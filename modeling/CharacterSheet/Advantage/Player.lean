import CharacterSheet.Value.Basic

/-!
# A player's records

The advantages of a character are listed in an array, where a bare text is a key, or in an object
keyed by advantage.
-/

namespace CharacterSheet

namespace PlayerRecord

/-- An element of an array as a record. -/
def ofItem : Value → Value
  | .string key => .object [("key", .string key)]
  | item => item

/-- An entry of an object as a record. -/
def ofEntry (key : String) : Value → Value
  | .object fields =>
    if Fields.contains "key" fields then .object fields
    else .object (Fields.insert "key" (.string key) fields)
  | value => Value.ofFields [("key", .string key), ("value", value)]

/-- The records that a character lists in a field. -/
def inField (character : Value) (field : String) : List Value :=
  match character.field? field with
  | some (.array items) => items.map ofItem
  | some (.object fields) => fields.map fun (key, value) => ofEntry key value
  | _ => []

end PlayerRecord

end CharacterSheet
