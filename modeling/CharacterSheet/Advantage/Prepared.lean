import CharacterSheet.Advantage.Deviation
import CharacterSheet.Advantage.Record
import CharacterSheet.RuleBook
import CharacterSheet.Value.Layer

/-!
# Prepared advantages

An advantage is prepared in three layers: the player's record lies over the rule record, and what
selected deviations replace lies over both. The purchase level is that of the first two layers; it
selects the effect.
-/

namespace CharacterSheet

/-- An advantage that is ready to be rendered. -/
structure PreparedAdvantage where
  advantage : Advantage
  purchaseLevel : Int
  /-- The purchase level with the magnitude of deviations. -/
  adjusted : Float
  /-- The effect as a template. -/
  effect : String
  substitutions : List Substitution
  /-- The names of the deviations that were applied. -/
  applied : List String

namespace PreparedAdvantage

/-- The effect of a record at a level: one text for all, or one for each level. -/
def selectEffect (kind : AdvantageKind) (record : AdvantageRecord) (level : Int) :
    Except Fault String :=
  match record.effect? with
  | some (.string text) => .ok text
  | some (.object levels) =>
    match (Fields.get? (toString level) levels).bind Value.string? with
    | some text => .ok text
    | none => .error (.ruleData (.noEffectLevel kind record.key level (Fields.keys levels)))
  | some other => .error (.ruleData (.badEffect kind record.key other.compact))
  | none => .error (.ruleData (.noEffect kind record.key))

/-- The player's record over the rule record of its key. -/
def layered (kind : AdvantageKind) (key : String) (player : Value) (rules : RuleBook) :
    Except Fault AdvantageRecord :=
  let rule := (rules.record? kind.category key).getD (.object [])
  AdvantageRecord.ofValue kind (.object (Value.advantageOver rule player))

/-- Prepares the advantage of a player's record. -/
def ofRecord (kind : AdvantageKind) (player : Value) (rules : RuleBook)
    (patterns : PatternLibrary) : Except Fault PreparedAdvantage := do
  match player.textField? "key" with
  | none => throw (.ruleData (.noKey kind player.compact))
  | some key =>
    let record ← layered kind key player rules
    let level := (Advantage.mk kind record).purchaseLevel
    let outcome ←
      DeviationOutcome.applySelected patterns key record.deviations record.selected
    let record ← record.overridden kind outcome.replacements
    let effect ← selectEffect kind record level
    pure
      { advantage := ⟨kind, record⟩
        purchaseLevel := level
        adjusted := Rounding.ofWord level + outcome.magnitude
        effect
        substitutions := outcome.substitutions
        applied := outcome.applied }

end PreparedAdvantage

end CharacterSheet
