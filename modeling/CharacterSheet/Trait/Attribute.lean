import CharacterSheet.Value.Rating

/-!
# Attributes and short names

The nine base attributes, their names and three-letter forms, and the short names by which
templates mention them and the derived traits.
-/

namespace CharacterSheet

/-- The nine base attributes. -/
inductive BaseAttribute
  | intelligence | wits | resolve
  | strength | dexterity | stamina
  | presence | manipulation | composure
  deriving DecidableEq, Repr

namespace BaseAttribute

/-- All attributes in the order of the sheet. -/
def all : List BaseAttribute :=
  [.intelligence, .wits, .resolve, .strength, .dexterity, .stamina, .presence, .manipulation,
    .composure]

/-- The field that holds the attribute. -/
def name : BaseAttribute → String
  | .intelligence => "intelligence"
  | .wits => "wits"
  | .resolve => "resolve"
  | .strength => "strength"
  | .dexterity => "dexterity"
  | .stamina => "stamina"
  | .presence => "presence"
  | .manipulation => "manipulation"
  | .composure => "composure"

/-- The three-letter form. -/
def short : BaseAttribute → String
  | .intelligence => "int"
  | .wits => "wit"
  | .resolve => "res"
  | .strength => "str"
  | .dexterity => "dex"
  | .stamina => "sta"
  | .presence => "pre"
  | .manipulation => "man"
  | .composure => "com"

/-- The name as it is shown. -/
def label : BaseAttribute → String
  | .intelligence => "Intelligence"
  | .wits => "Wits"
  | .resolve => "Resolve"
  | .strength => "Strength"
  | .dexterity => "Dexterity"
  | .stamina => "Stamina"
  | .presence => "Presence"
  | .manipulation => "Manipulation"
  | .composure => "Composure"

/-- The attribute with the full name. -/
def ofName? (name : String) : Option BaseAttribute := all.find? fun trait => trait.name == name

/-- The attribute with the three-letter form. -/
def ofShort? (short : String) : Option BaseAttribute := all.find? fun trait => trait.short == short

/-- The shown name of an attribute given by its full name; other names show as they are. -/
def labelOf (name : String) : String := ((ofName? name).map label).getD name

/-- The attribute whose base rating is meant by `baseInt`, `baseStr` and so on. -/
def ofBaseReference? (reference : Text) : Option BaseAttribute :=
  (Text.after? "base".toList reference).bind fun short =>
    ofShort? (String.ofList (short.map Char.toLower))

end BaseAttribute

/-- Traits that are kept under `derived`. -/
def derivedTraits : List String :=
  ["health", "willpower", "speed", "defense", "initiative", "size", "armor"]

/-- The path that a short name stands for: an attribute by either of its names, or a derived trait,
in any letter case. -/
def shorthandPath? (name : Text) : Option Text :=
  if name.any (· == '.') then none
  else
    let lower := String.ofList (name.map Char.toLower)
    match BaseAttribute.all.find? fun trait => trait.name == lower || trait.short == lower with
    | some trait => some ("attributes.".toList ++ trait.name.toList)
    | none =>
      (derivedTraits.find? (· == lower)).map fun trait => "derived.".toList ++ trait.toList

/-- The base rating of one of the character's attributes. -/
def attributeBase? (character : Value) (name : String) : Option Float := do
  let attributes ← character.field? "attributes"
  let trait ← attributes.field? name
  trait.rating? true

/-- A bare rating as a record with a name, so that it can be shown like any other trait. -/
def ratedRecord (key name trait : String) (base : Float) : Value :=
  let rating := ((Number.ofFloat? base).map Value.number).getD .null
  Value.ofFields
    [("key", .string key), ("name", .string name), ("attribute", .string trait),
      ("display", .string (BaseAttribute.labelOf trait)),
      ("value", Value.ofFields [("base", rating), ("total", rating)])]

end CharacterSheet
