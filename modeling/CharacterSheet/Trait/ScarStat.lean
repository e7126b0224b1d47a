import CharacterSheet.Trait.Attribute

/-!
# Scar types and scar stats

A scar is physical, mental or social. Its power, finesse and resistance are the base ratings of the
three attributes of that type.
-/

namespace CharacterSheet

/-- The type of a scar. -/
inductive ScarType
  | physical
  | mental
  | social
  deriving DecidableEq, Repr

namespace ScarType

/-- The name of the type. -/
def name : ScarType → String
  | .physical => "physical"
  | .mental => "mental"
  | .social => "social"

/-- The type that a text names, in any letter case. -/
def ofText? (text : Text) : Option ScarType :=
  match String.ofList ((Text.trim text).map Char.toLower) with
  | "physical" => some .physical
  | "mental" => some .mental
  | "social" => some .social
  | _ => none

/-- The type in the `type` field of a record. -/
def ofRecord? (record : Value) : Option ScarType :=
  (record.textField? "type").bind fun s => ofText? s.toList

end ScarType

/-- The three stats of a scar. -/
inductive ScarStat
  | power
  | finesse
  | resistance
  deriving DecidableEq, Repr

namespace ScarStat

/-- All stats in the order of the sheet. -/
def all : List ScarStat := [.power, .finesse, .resistance]

/-- The name by which templates refer to the stat. -/
def key : ScarStat → String
  | .power => "scarPower"
  | .finesse => "scarFinesse"
  | .resistance => "scarResistance"

/-- The name as it is shown. -/
def label : ScarStat → String
  | .power => "Power"
  | .finesse => "Finesse"
  | .resistance => "Resistance"

/-- The stat that a reference names. -/
def ofReference? (reference : String) : Option ScarStat :=
  all.find? fun stat => stat.key == reference

/-- The attribute that a stat reads for a type of scar. -/
def attributeFor : ScarStat → ScarType → BaseAttribute
  | .power, .mental => .intelligence
  | .finesse, .mental => .wits
  | .resistance, .mental => .resolve
  | .power, .physical => .strength
  | .finesse, .physical => .dexterity
  | .resistance, .physical => .stamina
  | .power, .social => .presence
  | .finesse, .social => .manipulation
  | .resistance, .social => .composure

end ScarStat

end CharacterSheet
