import CharacterSheet.Pattern.Linear
import CharacterSheet.Proofs.Advantage.Provenance
import CharacterSheet.Proofs.Advantage.Replacement

/-!
# The three layers of an advantage

A prepared advantage has in each field what a selected deviation puts there, else what the
player's record has, else what the rule has (`PreparedAdvantage.inLayers_of_ofRecord`). The level
is bought at the value below the deviations.
-/

namespace CharacterSheet

/-- The level that a value buys. -/
def Advantage.levelOf (kind : AdvantageKind) (value? : Option Value) : Int :=
  (Advantage.mk kind { key := "", value? }).purchaseLevel

/-- Nothing but its value decides the level of a record. -/
theorem Advantage.purchaseLevel_eq_levelOf (advantage : Advantage) :
    advantage.purchaseLevel = levelOf advantage.kind advantage.record.value? := rfl

namespace PreparedAdvantage

/-- A selected deviation of two layered records puts a value in place of a field. -/
def Replaced
    (rule player : Value)
    (field : String)
    (value : Value) : Prop :=
  ∃ selection ∈ Value.itemsOf (Value.selected? rule player),
    Deviation.Replaces (Value.entriesOf (Value.definitions? rule player)) selection field value

/-- The fields of a prepared advantage come from three layers: what selected deviations replace,
the player's record and the rule. -/
structure InLayers
    (kind : AdvantageKind)
    (rule player : Value)
    (prepared : PreparedAdvantage) : Prop where
  replaced : ∀ field value, field ∉ Value.deviationFields → Replaced rule player field value →
    Fields.get? field prepared.advantage.record.toFields =
      AdvantageRecord.present? field (some value)
  kept : ∀ field, field ∉ Value.deviationFields →
    (∀ value, ¬ Replaced rule player field value) →
    Fields.get? field prepared.advantage.record.toFields =
      AdvantageRecord.present? field (Value.layered? rule player field)
  /-- The definitions of deviations are written if there are any. -/
  written : Fields.get? "deviations" prepared.advantage.record.toFields =
    AdvantageRecord.definitionsValue? prepared.advantage.record.deviations
  redefined : ∀ value, Replaced rule player "deviations" value →
    value = .object prepared.advantage.record.deviations
  defined : (∀ value, ¬ Replaced rule player "deviations" value) → ∀ name,
    Fields.get? name prepared.advantage.record.deviations =
      (Fields.get? name (Value.entriesOf (player.field? "deviations"))).or
        (Fields.get? name (Value.entriesOf (rule.field? "deviations")))
  /-- A selection leaves the definitions of the rule as they are. -/
  undisturbed : (∀ value, ¬ Replaced rule player "deviations" value) → ∀ items,
    player.field? "deviations" = some (.array items) →
    prepared.advantage.record.deviations = Value.entriesOf (rule.field? "deviations")
  /-- The level is bought at the value below the deviations. -/
  level : prepared.purchaseLevel =
    Advantage.levelOf kind
      (AdvantageRecord.present? "value" (Value.layered? rule player "value"))

variable {patterns : PatternLibrary} {kind : AdvantageKind} {rule player : Value}
  {base : AdvantageRecord}

/-- What lies below the deviations has the definitions of both records. -/
theorem deviations_of_readFrom
    (ordered : player.Ordered)
    (read : base.ReadFrom (Value.advantageOver rule player)) :
    base.deviations = Value.entriesOf (Value.definitions? rule player) := by
  rw [← Value.get?_deviations_advantageOver ordered]
  exact AdvantageRecord.definitions?_eq_some read.definitions

theorem selected_of_readFrom
    (ordered : player.Ordered)
    (read : base.ReadFrom (Value.advantageOver rule player)) :
    base.selected = Value.itemsOf (Value.selected? rule player) := by
  rw [← Value.get?_selectedDeviations_advantageOver ordered]
  exact AdvantageRecord.selection?_eq_some read.selection

/-- Definitions that were read are an object. -/
theorem object_of_readFrom
    (ordered : player.Ordered)
    (read : base.ReadFrom (Value.advantageOver rule player))
    {value : Value}
    (found : Value.definitions? rule player = some value) :
    ∃ entries, value = .object entries := by
  have definitions := read.definitions
  unfold AdvantageRecord.definitions? at definitions
  rw [Value.get?_deviations_advantageOver ordered, found] at definitions
  cases value with
  | object entries => exact ⟨entries, rfl⟩
  | _ => cases definitions

/-- What the selected deviations replace is what is put in place of the base's fields. -/
theorem replaced_iff
    (ordered : player.Ordered)
    (read : base.ReadFrom (Value.advantageOver rule player))
    {key : String}
    {outcome : DeviationOutcome}
    (applied :
      DeviationOutcome.applySelected patterns key base.deviations base.selected = .ok outcome)
    {field : String}
    {value : Value} :
    Fields.get? field outcome.replacements = some value ↔ Replaced rule player field value := by
  rw [(DeviationOutcome.get?_replacements_iff applied).2, selected_of_readFrom ordered read,
    deviations_of_readFrom ordered read]
  exact Iff.rfl

/-- The base with its fields replaced is in layers. -/
theorem inLayers_of_overridden
    (ordered : player.Ordered)
    (read : base.ReadFrom (Value.advantageOver rule player))
    {key : String}
    {outcome : DeviationOutcome}
    (applied :
      DeviationOutcome.applySelected patterns key base.deviations base.selected = .ok outcome)
    {prepared : PreparedAdvantage}
    (overridden : base.overridden kind outcome.replacements = .ok prepared.advantage.record)
    (isLevel : prepared.purchaseLevel = (Advantage.mk kind base).purchaseLevel) :
    prepared.InLayers kind rule player := by
  have sorted := (DeviationOutcome.get?_replacements_iff applied).1
  have unreplaced : ∀ {field}, (∀ value, ¬ Replaced rule player field value) →
      Fields.get? field outcome.replacements = none := fun none =>
    Option.eq_none_iff_forall_ne_some.2 fun value found =>
      none value ((replaced_iff ordered read applied).1 found)
  have below : ∀ {field}, field ∉ Value.deviationFields →
      Fields.get? field base.toFields =
        AdvantageRecord.present? field (Value.layered? rule player field) := fun ordinary => by
    rw [read.get?_toFields ordinary, Value.get?_advantageOver ordered ordinary]
  constructor
  case replaced =>
    intro field value ordinary replaced
    rw [AdvantageRecord.get?_overridden read sorted overridden ordinary,
      (replaced_iff ordered read applied).2 replaced, Option.some_or]
  case kept =>
    intro field ordinary none
    rw [AdvantageRecord.get?_overridden read sorted overridden ordinary, unreplaced none,
      Option.none_or, below ordinary, AdvantageRecord.present?_present?]
  case written =>
    obtain ⟨merged, again⟩ := AdvantageRecord.exists_readFrom_of_overridden read overridden
    exact again.get?_deviations_toFields
  case redefined =>
    intro value replaced
    exact AdvantageRecord.object_of_overridden sorted overridden
      ((replaced_iff ordered read applied).2 replaced)
  case defined =>
    intro none name
    rw [AdvantageRecord.deviations_of_overridden read sorted overridden (unreplaced none),
      deviations_of_readFrom ordered read]
    exact Value.get?_entriesOf_definitions? ordered
      (fun value found => object_of_readFrom ordered read found) name
  case undisturbed =>
    intro none items isSelection
    rw [AdvantageRecord.deviations_of_overridden read sorted overridden (unreplaced none),
      deviations_of_readFrom ordered read, Value.definitions?, isSelection]
    rfl
  case level =>
    have value := AdvantageRecord.optionalValue_eq.symm.trans read.value
    rw [Value.get?_advantageOver ordered (by decide)] at value
    rw [isLevel, Advantage.purchaseLevel_eq_levelOf, ← value]
    rfl

/-- Every advantage that can be prepared is in layers: in each field the value that a selected
deviation puts there, else the player's, else that of the rule. -/
theorem inLayers_of_ofRecord
    {rules : RuleBook}
    {prepared : PreparedAdvantage}
    (ordered : player.Ordered)
    (isPrepared : ofRecord kind player rules patterns = .ok prepared) :
    ∃ key, player.textField? "key" = some key ∧
      prepared.InLayers kind ((rules.record? kind.category key).getD (.object [])) player := by
  obtain ⟨-, key, base, outcome, isKey, isBase, isOutcome, isRecord, -, isLevel⟩ :=
    ofRecord_eq_ok isPrepared
  exact ⟨key, isKey, inLayers_of_overridden ordered (AdvantageRecord.readFrom_of_ofValue isBase)
    isOutcome isRecord isLevel⟩

/-- Claws with a deviation selected that replaces the effect. The name is dropped, and the tag
of the player counts once. -/
theorem inLayers_of_ofRecord_of_claws :
    let rule : Value :=
      .object
        [("deviations", .object
            [("long", .object [("replace", .object [("effect", .string "Longer.")])]),
              ("sharp", .object [])]),
          ("effect", .string "Claws."), ("name", .string "Claws"),
          ("tags", .array [.string "body"])]
    let player : Value :=
      .object
        [("deviations", .array [.string "long"]), ("key", .string "claws"), ("name", .null),
          ("tags", .array [.string "natural", .string "natural"])]
    let rules : RuleBook := ⟨[("merits", .object [("claws", rule)])]⟩
    ∃ prepared,
      player.Ordered ∧ ofRecord .merit player rules .linear = .ok prepared ∧
      prepared.effect = "Longer." ∧ prepared.advantage.record.name? = none ∧
      ∃ key, player.textField? "key" = some key ∧
        prepared.InLayers .merit
          ((rules.record? AdvantageKind.merit.category key).getD (.object [])) player := by
  intro rule player rules
  have ordered : player.Ordered := by decide +kernel
  have shown : (ofRecord .merit player rules .linear).toOption.map
      (fun prepared => (prepared.effect, prepared.advantage.record.name?)) =
        some ("Longer.", none) := by
    decide +kernel
  rcases isPrepared : ofRecord .merit player rules .linear with fault | prepared
  · rw [isPrepared] at shown
    cases shown
  · rw [isPrepared] at shown
    obtain ⟨effect, name⟩ :
        prepared.effect = "Longer." ∧ prepared.advantage.record.name? = none := by
      simpa [Except.toOption] using shown
    exact ⟨prepared, ordered, rfl, effect, name, inLayers_of_ofRecord ordered isPrepared⟩

end PreparedAdvantage
end CharacterSheet
