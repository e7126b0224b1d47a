import CharacterSheet.Value.Printer
import CharacterSheet.Value.Rating

/-!
# Labels

How values appear in running text: a record by its `display`, `name` or `key`, a number as an
amount, an array by its elements with commas between them.
-/

namespace CharacterSheet

namespace Value

/-- The label of a record: `display`, else `name`, else `key`. -/
def recordLabel? (value : Value) : Option String :=
  (value.textField? "display").or ((value.textField? "name").or (value.textField? "key"))

/-- The label of a value in a list, if it has one. -/
def label? : Value → Option Text
  | .string s => some s.toList
  | .number n => some (Amount.text n.toFloat)
  | .object fields => (recordLabel? (.object fields)).map String.toList
  | _ => none

/-- An object in running text: its label, else its rating, else its compact text. -/
def shownObject (fields : Fields) : Text :=
  match label? (.object fields) with
  | some label => label
  | none =>
    match rating? false (.object fields) with
    | some x => Amount.text x
    | none => written (.object fields)

mutual

/-- A value in running text. -/
def shown : Value → Text
  | .null => []
  | .boolean true => "true".toList
  | .boolean false => "false".toList
  | .number n => Amount.text n.toFloat
  | .string s => s.toList
  | .array items => Text.join ", ".toList (shownItems items)
  | .object fields => shownObject fields

/-- Each of the values in running text. -/
def shownItems : List Value → List Text
  | [] => []
  | item :: items => shown item :: shownItems items

end

end Value

namespace Text

/-- A list in words: "A", "A and B", "A, B, and C". -/
def enumerate (conjunction : Text) : List Text → Text
  | [] => []
  | [only] => only
  | [first, last] => first ++ [' '] ++ conjunction ++ [' '] ++ last
  | items =>
    join ", ".toList items.dropLast ++ ", ".toList ++ conjunction ++ [' '] ++
      items.getLast?.getD []

end Text

end CharacterSheet
