import CharacterSheet.Advantage.Activation
import CharacterSheet.Advantage.Prepared
import CharacterSheet.Citation
import CharacterSheet.Rendering.Engine
import CharacterSheet.Trait.Dotline

/-!
# Processed advantages

A processed advantage is its record with computed fields: the purchase level and the adjusted value,
what its kind adds, and its texts rendered with the record in scope as the entity.
-/

namespace CharacterSheet

namespace PreparedAdvantage

/-- The fields that every kind of advantage has before its own are added. -/
def commonFields (prepared : PreparedAdvantage) : Fields :=
  let record := prepared.advantage.record
  let fields :=
    Fields.insert "display" (.string record.shownName)
      (Fields.insert "adjustedValue" (.ofAmount prepared.adjusted)
        (Fields.insert "purchaseLevel" (.number (.ofWord prepared.purchaseLevel)) record.toFields))
  if prepared.applied.isEmpty then fields
  else Fields.insert "appliedDeviations" (.array (prepared.applied.map Value.string)) fields

/-- The type of a variation, its own or that of the scar it is entangled with. -/
def typed (prepared : PreparedAdvantage) (rules : RuleBook) (scope : Scope) (fields : Fields) :
    Except Fault Fields :=
  match scarTypeOf (.object fields) scope.character rules with
  | .ok type => .ok (Fields.insert "type" (.string type.name) fields)
  | .error cause => .error (.ruleData (.untyped prepared.advantage.record.key cause))

/-- One stat of a scar, if the character has the attribute for it. -/
def statField? (character : Value) (type : ScarType) (stat : ScarStat) : Option (String × Value) :=
  let trait := stat.attributeFor type
  (attributeBase? character trait.name).map fun base =>
    (stat.key,
      Value.ofFields
        [("name", .string stat.label), ("attribute", .string trait.name),
          ("display", .string trait.label),
          ("value", ((Number.ofFloat? base).map Value.number).getD .null)])

/-- The type and the stats of a scar, if it has a type. -/
def withStats (scope : Scope) (fields : Fields) : Fields :=
  match ScarType.ofRecord? (.object fields) with
  | none => fields
  | some type =>
    let stats := Value.ofFields (ScarStat.all.filterMap (statField? scope.character type))
    Fields.insert "stats" stats (Fields.insert "type" (.string type.name) fields)

/-- The activations of a scar as a list, and their badges, if it has any. -/
def withActivations (activations : List Activation) (fields : Fields) : Fields :=
  if activations.isEmpty then fields
  else
    let names := activations.map fun activation => Value.string activation.name
    let badges := " ".intercalate (activations.map Activation.badge)
    Fields.insert "badges" (.string badges) (Fields.insert "activation" (.array names) fields)

/-- Whether a scar was granted without cost, as itself or its value says. -/
def isFree (fields : Fields) : Bool :=
  (Fields.get? "free" fields).any Value.isTruthy ||
    ((Fields.get? "value" fields).bind (Value.field? "free")).any Value.isTruthy

/-- The row of dots of a scar. -/
def dots (prepared : PreparedAdvantage) (limit : Nat) (fields : Fields) : List Dot :=
  let deviation :=
    Rounding.nearestWord (prepared.adjusted - Rounding.ofWord prepared.purchaseLevel)
  Dot.scarRow prepared.purchaseLevel deviation (isFree fields) limit

/-- What a scar adds to its fields. -/
def scarred (prepared : PreparedAdvantage) (config : Config) (scope : Scope) (fields : Fields) :
    Except Fault Fields := do
  let row := prepared.dots config.maxDots fields
  let activations ←
    Activation.ofField prepared.advantage.record.key (Fields.get? "activation" fields)
  pure
    (Fields.insert "dotline" (.ofText (Dot.rowMarkup row))
      (withActivations activations (withStats scope fields)))

/-- The fields of an advantage before its texts are rendered. -/
def fields (prepared : PreparedAdvantage) (engine : Engine) (scope : Scope) : Except Fault Fields :=
  match prepared.advantage.kind with
  | .merit => .ok prepared.commonFields
  | .variation => prepared.typed engine.rules scope prepared.commonFields
  | .scar => prepared.scarred engine.config scope prepared.commonFields

/-- The citation of a source, if it names a known book and a page. -/
def citation? (fields : Fields) : Option Text :=
  match ((Fields.get? "source" fields).bind Citation.ofValue?).map Citation.markup with
  | some (.ok markup) => some markup
  | _ => none

/-- Renders the effect and the narrative, both with the fields as they were before, and adds the
citation. -/
def withTexts (prepared : PreparedAdvantage) (engine : Engine) (scope : Scope) (fields : Fields) :
    Action Fields := do
  let scope := scope.withEntity (.object fields)
  let template := Substitution.applyAll prepared.substitutions prepared.effect.toList
  let effect ← engine.render scope template
  let rendered := Fields.insert "effect" (.ofText effect) fields
  let rendered ← match (Fields.get? "narrative" fields).bind Value.string? with
    | some text => do
      let narrative ← engine.render scope text.toList
      pure (Fields.insert "narrative" (.ofText narrative) rendered)
    | none => pure rendered
  match citation? fields with
  | some citation => pure (Fields.insert "citation" (.ofText citation) rendered)
  | none => pure rendered

end PreparedAdvantage

namespace Advantage

/-- Processes a player's record as an advantage of the kind. -/
def process (kind : AdvantageKind) (engine : Engine) (scope : Scope) (player : Value) :
    Action Fields := do
  let prepared ← ExceptT.mk
    (pure (PreparedAdvantage.ofRecord kind player engine.rules engine.patterns))
  let fields ← ExceptT.mk (pure (prepared.fields engine scope))
  prepared.withTexts engine scope fields

end Advantage

end CharacterSheet
