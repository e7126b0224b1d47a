import CharacterSheet.Advantage.Processing
import CharacterSheet.Proofs.Advantage.Provenance
import CharacterSheet.Proofs.Rendering.Reports

/-!
# What processing does to a record

Processing computes fields in three groups: those of every advantage, those of its
kind, and its texts. Each group leaves all other fields as they were
(`Advantage.sameBeyond_of_process`), so what one group computed is still there at the
end, and what no group computes is that of the record.
-/

namespace CharacterSheet

/-- Rendering leaves the depth as it was. -/
theorem Engine.depth_of_render
    (engine : Engine)
    {scope : Scope}
    {text : Text}
    {journal after : Journal}
    {outcome : Except Fault Text}
    (rendered : (engine.render scope text).on journal = (outcome, after)) :
    after.depth = journal.depth := by
  obtain ⟨spans, run⟩ : Performs engine (engine.render scope text)
      (.render scope text) journal := Performs.render scope text journal
  rw [rendered] at run
  exact run.continues.depth_eq

namespace PreparedAdvantage

/-- The fields that are computed for every advantage. -/
def commonNames : List String :=
  ["purchaseLevel", "adjustedValue", "display", "appliedDeviations"]

/-- The fields that are computed for the advantages of one kind. -/
def kindNames : List String := ["type", "stats", "activation", "badges", "dotline"]

/-- The fields that are rendered. -/
def textNames : List String := ["effect", "narrative", "citation"]

theorem sameBeyond_commonFields (prepared : PreparedAdvantage) :
    Fields.SameBeyond commonNames prepared.advantage.record.toFields prepared.commonFields := by
  unfold commonFields
  have three : Fields.SameBeyond commonNames prepared.advantage.record.toFields
      (Fields.insert "display" (.string prepared.advantage.record.shownName)
        (Fields.insert "adjustedValue" (.ofAmount prepared.adjusted)
          (Fields.insert "purchaseLevel" (.number (.ofWord prepared.purchaseLevel))
            prepared.advantage.record.toFields))) := by
    iterate 3 apply Fields.SameBeyond.insert (by decide)
    exact .refl _ _
  dsimp only
  split
  · exact three
  · exact three.insert (by decide) _

theorem sameBeyond_withStats (scope : Scope) (fields : Fields) :
    Fields.SameBeyond kindNames fields (withStats scope fields) := by
  unfold withStats
  split
  · exact .refl _ _
  · iterate 2 apply Fields.SameBeyond.insert (by decide)
    exact .refl _ _

theorem sameBeyond_withActivations (activations : List Activation) (fields : Fields) :
    Fields.SameBeyond kindNames fields (withActivations activations fields) := by
  unfold withActivations
  split
  · exact .refl _ _
  · iterate 2 apply Fields.SameBeyond.insert (by decide)
    exact .refl _ _

/-- A variation gets a type. -/
theorem typed_eq_ok
    {prepared : PreparedAdvantage}
    {rules : RuleBook}
    {scope : Scope}
    {before fields : Fields}
    (computed : prepared.typed rules scope before = .ok fields) :
    ∃ type : ScarType, fields = Fields.insert "type" (.string type.name) before := by
  unfold typed at computed
  split at computed
  · next type _ => exact ⟨type, (Except.ok.inj computed).symm⟩
  · cases computed

/-- A scar gets its stats, its activations and its row of dots. -/
theorem scarred_eq_ok
    {prepared : PreparedAdvantage}
    {config : Config}
    {scope : Scope}
    {before fields : Fields}
    (computed : prepared.scarred config scope before = .ok fields) :
    ∃ activations,
      Activation.ofField prepared.advantage.record.key (Fields.get? "activation" before) =
        .ok activations ∧
      fields = Fields.insert "dotline"
        (.ofText (Dot.rowMarkup (prepared.dots config.maxDots before)))
        (withActivations activations (withStats scope before)) := by
  unfold scarred at computed
  obtain ⟨activations, areActivations, same⟩ := bind_eq_ok_iff.1 computed
  exact ⟨activations, areActivations, (Except.ok.inj same).symm⟩

/-- What a kind computes leaves the other fields as they were. -/
theorem sameBeyond_fields
    {prepared : PreparedAdvantage}
    {engine : Engine}
    {scope : Scope}
    {fields : Fields}
    (computed : prepared.fields engine scope = .ok fields) :
    Fields.SameBeyond kindNames prepared.commonFields fields := by
  unfold PreparedAdvantage.fields at computed
  split at computed
  · cases computed
    exact .refl _ _
  · obtain ⟨type, rfl⟩ := typed_eq_ok computed
    exact (Fields.SameBeyond.refl _ _).insert (by decide) _
  · obtain ⟨activations, -, rfl⟩ := scarred_eq_ok computed
    apply Fields.SameBeyond.insert (by decide)
    exact (sameBeyond_withStats scope _).trans (sameBeyond_withActivations activations _)

/-- The fields with their rendered texts, of which an advantage may lack all but the
effect. -/
def described (effect : Text) (narrative? citation? : Option Text) (fields : Fields) : Fields :=
  AdvantageRecord.insertSome "citation" (citation?.map Value.ofText)
    (AdvantageRecord.insertSome "narrative" (narrative?.map Value.ofText)
      (Fields.insert "effect" (.ofText effect) fields))

/-- The texts of an advantage are rendered one after the other, both with the same fields
in scope. -/
theorem on_withTexts_eq_ok
    {prepared : PreparedAdvantage}
    {engine : Engine}
    {scope : Scope}
    {fields result : Fields}
    {journal after : Journal}
    (done : (prepared.withTexts engine scope fields).on journal = (.ok result, after)) :
    ∃ effect between narrative?,
      (engine.render (scope.withEntity (.object fields))
        (Substitution.applyAll prepared.substitutions prepared.effect.toList)).on journal =
          (.ok effect, between) ∧
      result = described effect narrative? (citation? fields) fields ∧
      match (Fields.get? "narrative" fields).bind Value.string? with
      | some text =>
          ∃ narrative, narrative? = some narrative ∧
            (engine.render (scope.withEntity (.object fields)) text.toList).on between =
              (.ok narrative, after)
      | none => narrative? = none ∧ after = between := by
  unfold withTexts at done
  obtain ⟨effect, between, isEffect, done⟩ := Action.on_bind_eq_ok_iff.1 done
  refine ⟨effect, between, ?_⟩
  cases told : (Fields.get? "narrative" fields).bind Value.string? with
  | none =>
      rw [told] at done
      obtain ⟨rendered, middle, isRendered, done⟩ := Action.on_bind_eq_ok_iff.1 done
      cases isRendered
      refine ⟨none, isEffect, ?_⟩
      split at done <;> next isCitation =>
        cases done
        rw [isCitation]
        exact ⟨rfl, rfl, rfl⟩
  | some text =>
      rw [told] at done
      obtain ⟨narrative, late, isNarrative, done⟩ := Action.on_bind_eq_ok_iff.1 done
      obtain ⟨rendered, middle, isRendered, done⟩ := Action.on_bind_eq_ok_iff.1 done
      cases isRendered
      refine ⟨some narrative, isEffect, ?_⟩
      split at done <;> next isCitation =>
        cases done
        rw [isCitation]
        exact ⟨rfl, narrative, rfl, isNarrative⟩

theorem sameBeyond_described
    (effect : Text)
    (narrative? citation? : Option Text)
    (fields : Fields) :
    Fields.SameBeyond textNames fields (described effect narrative? citation? fields) := by
  have withEffect : Fields.SameBeyond textNames fields
      (Fields.insert "effect" (.ofText effect) fields) :=
    (Fields.SameBeyond.refl _ _).insert (by decide) _
  cases narrative? <;> cases citation? <;>
    simp only [described, AdvantageRecord.insertSome, Option.map_none, Option.map_some]
  · exact withEffect
  · exact withEffect.insert (by decide) _
  · exact withEffect.insert (by decide) _
  · exact (withEffect.insert (by decide) _).insert (by decide) _

end PreparedAdvantage

namespace Advantage

variable {kind : AdvantageKind} {engine : Engine} {scope : Scope}
  {player : Value} {fields : Fields} {journal after : Journal}

/-- Processing prepares the record, computes its fields, and renders its texts. -/
theorem on_process_eq_ok
    (processed : (process kind engine scope player).on journal = (.ok fields, after)) :
    ∃ prepared before,
      PreparedAdvantage.ofRecord kind player engine.rules engine.patterns = .ok prepared ∧
      prepared.fields engine scope = .ok before ∧
      (prepared.withTexts engine scope before).on journal = (.ok fields, after) := by
  unfold process at processed
  obtain ⟨prepared, _, isPrepared, processed⟩ := Action.on_bind_eq_ok_iff.1 processed
  obtain ⟨before, _, isBefore, processed⟩ := Action.on_bind_eq_ok_iff.1 processed
  rw [Action.on_check, Prod.mk.injEq] at isPrepared isBefore
  obtain ⟨isPrepared, rfl⟩ := isPrepared
  obtain ⟨isBefore, rfl⟩ := isBefore
  exact ⟨prepared, before, isPrepared, isBefore, processed⟩

/-- The fields that processing computes. -/
def computedNames : List String :=
  PreparedAdvantage.commonNames ++ PreparedAdvantage.kindNames ++ PreparedAdvantage.textNames

/-- Processing leaves the fields of the record as they were, apart from those that it
computes. -/
theorem sameBeyond_of_process
    (processed : (process kind engine scope player).on journal = (.ok fields, after)) :
    ∃ prepared,
      PreparedAdvantage.ofRecord kind player engine.rules engine.patterns = .ok prepared ∧
      Fields.SameBeyond computedNames prepared.advantage.record.toFields fields := by
  obtain ⟨prepared, before, isPrepared, isBefore, rendered⟩ := on_process_eq_ok processed
  obtain ⟨effect, _, narrative?, -, rfl, -⟩ := PreparedAdvantage.on_withTexts_eq_ok rendered
  refine ⟨prepared, isPrepared, ?_⟩
  have common := prepared.sameBeyond_commonFields
  have ofKind := PreparedAdvantage.sameBeyond_fields isBefore
  have texts := PreparedAdvantage.sameBeyond_described effect narrative?
    (PreparedAdvantage.citation? before) before
  refine ((common.mono ?_).trans (ofKind.mono ?_)).trans (texts.mono ?_) <;> decide

/-- The fields that processing does not compute and a record does not read as its own
hold only texts of the player's record and of the rules. -/
theorem within_of_process
    {given : List String}
    (rulesWithin : engine.rules.categories.Within given)
    (playerWithin : player.Within given)
    (processed : (process kind engine scope player).on journal = (.ok fields, after))
    {name : String}
    {value : Value}
    (carried : name ∉ AdvantageRecord.ownFields)
    (plain : name ∉ computedNames)
    (found : Fields.get? name fields = some value) :
    value.Within given := by
  obtain ⟨prepared, isPrepared, same⟩ := sameBeyond_of_process processed
  rw [same name plain] at found
  exact PreparedAdvantage.within_of_ofRecord rulesWithin playerWithin isPrepared carried found

end Advantage
end CharacterSheet
