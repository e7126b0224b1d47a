import CharacterSheet.Value.Basic
import CharacterSheet.Text.Blank

/-!
# Ratings

Records keep their rating under conventional field names: a bare number, a numeric text, or one of
`total`, `value`, `base` and `min`, on the record itself or on its `value` object.
-/

namespace CharacterSheet

namespace Value

/-- The fields that may hold a rating, the preferred one first. -/
def ratingFields (preferBase : Bool) : List String :=
  if preferBase then ["base", "total", "value", "min"] else ["total", "value", "base", "min"]

/-- The first of the fields that holds a number. -/
def firstNumber? (fields : List String) (value : Value) : Option Float :=
  fields.findSome? fun field => (value.field? field).bind float?

/-- The number that a text stands for: blanks around it and a typographic minus are allowed. -/
def numericText? (s : String) : Option Float := Text.number? (Text.plainMinus (Text.trim s.toList))

/-- The rating of an object: a `value` number unless the base is preferred, else the fields of a
`value` object, else the fields of the object itself. -/
def objectRating? (preferBase : Bool) (object : Value) : Option Float :=
  match object.field? "value" with
  | some (.number n) =>
    if preferBase then firstNumber? (ratingFields preferBase) object else some n.toFloat
  | some (.object inner) =>
    (firstNumber? (ratingFields preferBase) (.object inner)).or
      (firstNumber? (ratingFields preferBase) object)
  | _ => firstNumber? (ratingFields preferBase) object

/-- The rating of a value, if it has one. -/
def rating? (preferBase : Bool) : Value → Option Float
  | .number n => some n.toFloat
  | .string s => numericText? s
  | .object fields => objectRating? preferBase (.object fields)
  | _ => none

/-- A record that carries a `value` stands for its rating; other values stand for themselves. -/
def ratingView (value : Value) : Value :=
  match value.field? "value" with
  | some _ =>
    match value.rating? false with
    | some x => ofAmount x
    | none => value
  | none => value

/-- Numeric text as a float, any other text as it is. -/
def ofNumericText (text : Text) : Value :=
  match (Text.number? (Text.plainMinus (Text.trim text))).bind Number.ofFloat? with
  | some n => .number n
  | none => ofText text

/-- Null, false, zero, empty text and the empty array are not truthy. -/
def isTruthy : Value → Bool
  | .null => false
  | .boolean b => b
  | .number n => n.toFloat != 0.0
  | .string s => s != ""
  | .array items => !items.isEmpty
  | .object _ => true

end Value

end CharacterSheet
