import CharacterSheet.Pattern.Substitution

/-!
# Deviations

A deviation changes the magnitude of an advantage, puts fields in place of its own, or substitutes
text in its effect. A player selects deviations by name; `applySelected` adds up what the selected
ones do. Two of them may not replace the same field.
-/

namespace CharacterSheet

/-- The definition of a deviation. -/
structure Deviation where
  name? : Option String := none
  /-- What is added to the magnitude. -/
  magnitude : Float := 0.0
  /-- The fields that are put in place of others. -/
  replace : Fields := []
  substitutions : List SubstitutionRule := []

namespace Deviation

/-- The fields of a definition in the order of the array form. -/
def fieldOrder : List String := ["name", "magMod", "replace", "regexpReplace"]

/-- What a reader makes of a field, or the given default where the field is missing. -/
def fieldOr {α : Type} (missing : α) (read? : Value → Option α) (key : String) (fields : Fields) :
    Option α :=
  match Fields.get? key fields with
  | none => some missing
  | some value => read? value

/-- A name, or null for none. -/
def optionalName? : Value → Option (Option String)
  | .null => some none
  | .string s => some (some s)
  | _ => none

/-- Reads a definition from fields. -/
def ofFields? (fields : Fields) : Option Deviation := do
  let name? ← fieldOr none optionalName? "name" fields
  let magnitude ← fieldOr 0.0 Value.float? "magMod" fields
  let replace ← fieldOr [] Value.fields? "replace" fields
  let substitutions ←
    fieldOr [] (fun value => value.items?.bind (List.mapM SubstitutionRule.ofValue?))
      "regexpReplace" fields
  pure { name?, magnitude, replace, substitutions }

/-- Reads a definition from an object, or from an array of its fields in order. -/
def ofValue? : Value → Option Deviation
  | .object fields => ofFields? fields
  | .array items =>
    if fieldOrder.length < items.length then none else ofFields? (fieldOrder.zip items)
  | _ => none

/-- The key of a selection: a text, or the `key` of an object, or its `name` if it has no key. -/
def selectedKey? : Value → Option String
  | .string s => some s
  | .object fields =>
    ((Fields.get? "key" fields).or (Fields.get? "name" fields)).bind Value.string?
  | _ => none

/-- The definition that a key means: the one of that name, else the first whose name differs in the
case of ASCII letters only. -/
def find? (definitions : Fields) (key : String) : Option (String × Value) :=
  match Fields.get? key definitions with
  | some value => some (key, value)
  | none =>
    definitions.find? fun definition => Text.sameIgnoringCase definition.1.toList key.toList

/-- The definition that a selection means, if it means one. -/
def selected? (definitions : Fields) (selection : Value) : Option (String × Value) :=
  (selectedKey? selection).bind (find? definitions)

end Deviation

/-- What selected deviations add up to. -/
structure DeviationOutcome where
  magnitude : Float := 0.0
  /-- The names of the deviations, in the order of selection. -/
  applied : List String := []
  /-- The fields put in place of others. -/
  replacements : Fields := []
  /-- For each replaced field the deviation that replaces it. -/
  replacedBy : List (String × String) := []
  substitutions : List Substitution := []

namespace DeviationOutcome

/-- Replaces a field on behalf of the deviation `name`. -/
def replace (name : String) (outcome : DeviationOutcome) (property : String) (value : Value) :
    Except Fault DeviationOutcome :=
  match outcome.replacedBy.lookup property with
  | some first => .error (.conflict property first name)
  | none =>
    .ok
      { outcome with
        replacements := Fields.insert property value outcome.replacements
        replacedBy := (property, name) :: outcome.replacedBy }

/-- Adds what a deviation does. -/
def add (patterns : PatternLibrary) (outcome : DeviationOutcome) (name : String)
    (deviation : Deviation) : Except Fault DeviationOutcome := do
  let outcome := { outcome with magnitude := outcome.magnitude + deviation.magnitude }
  let outcome ← deviation.replace.foldlM
    (fun outcome (property, value) => outcome.replace name property value) outcome
  let substitutions ← deviation.substitutions.mapM (Substitution.ofRule patterns)
  pure
    { outcome with
      substitutions := outcome.substitutions ++ substitutions
      applied := outcome.applied ++ [name] }

/-- Adds a selected deviation of the advantage. A selection that means no definition adds
nothing. -/
def select (patterns : PatternLibrary) (advantage : String) (definitions : Fields)
    (outcome : DeviationOutcome) (selection : Value) : Except Fault DeviationOutcome :=
  match Deviation.selected? definitions selection with
  | none => .ok outcome
  | some (key, definition) =>
    match Deviation.ofValue? definition with
    | none => .error (.ruleData (.badDeviation key advantage))
    | some deviation => outcome.add patterns (deviation.name?.getD key) deviation

/-- What the selected deviations of an advantage add up to. -/
def applySelected (patterns : PatternLibrary) (advantage : String) (definitions : Fields)
    (selected : List Value) : Except Fault DeviationOutcome :=
  selected.foldlM (select patterns advantage definitions) {}

end DeviationOutcome

end CharacterSheet
