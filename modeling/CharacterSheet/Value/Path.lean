import CharacterSheet.Fault
import CharacterSheet.Text.Blank
import CharacterSheet.Value.Basic

/-!
# Paths

A path is a list of segments. In the data of a character a segment names a field of an object or
the key of an array element, and a miss is a fault that shows how far the path went. In rule data
arrays are indexed by number, and a miss or a null is simply nothing.
-/

namespace CharacterSheet

/-- The segments of a path, from the root on. -/
abbrev Path := List String

namespace Path

/-- Reads the segments between dots, without the blanks around them. None may be empty. -/
def read (reference : String) (text : Text) : Except Fault Path :=
  let segments := (Text.split '.' text).map Text.trim
  if segments.any List.isEmpty then .error (.unresolved reference .emptySegment)
  else .ok (segments.map String.ofList)

/-- The segments with dots between them. -/
def text (path : Path) : String := ".".intercalate path

end Path

namespace Value

/-- Whether an element has the key, as a text or as the text of a number. -/
def hasKey (key : String) (item : Value) : Bool :=
  match item.field? "key" with
  | some (.string s) => s == key
  | some (.number n) => n.text == key.toList
  | _ => false

/-- The first element with the key. -/
def findByKey? (key : String) (items : List Value) : Option Value := items.find? (hasKey key)

/-- One step of a path; `walked` are the segments before it. -/
def step (reference : String) (walked : Path) (segment : String) :
    Value → Except Fault Value
  | .object fields =>
    match Fields.get? segment fields with
    | some value => .ok value
    | none => .error (.unresolved reference (.noProperty segment walked.text))
  | .array items =>
    match findByKey? segment items with
    | some value => .ok value
    | none => .error (.unresolved reference (.noElement segment walked.text))
  | value => .error (.unresolved reference (.noFields segment value.kindName))

/-- Follows a path after the segments already walked. -/
def followFrom (reference : String) (walked : Path) (value : Value) :
    Path → Except Fault Value
  | [] => .ok value
  | segment :: path => do
    let next ← step reference walked segment value
    followFrom reference (walked ++ [segment]) next path

/-- Follows a path in the data of a character. `reference` is what faults show. -/
def follow (reference : String) (value : Value) (path : Path) : Except Fault Value :=
  followFrom reference [] value path

/-- One step of a path in rule data. -/
def indexStep? (segment : String) : Value → Option Value
  | .object fields => Fields.get? segment fields
  | .array items => (Digits.index? segment.toList).bind fun index => items[index]?
  | _ => none

/-- Follows a path in rule data; no step may end at null. -/
def followIndexed? (value : Value) : Path → Option Value
  | [] => some value
  | segment :: path =>
    match indexStep? segment value with
    | some .null | none => none
    | some next => followIndexed? next path

end Value

end CharacterSheet
