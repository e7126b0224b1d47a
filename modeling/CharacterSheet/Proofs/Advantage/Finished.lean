import CharacterSheet.Proofs.Advantage.Processing
import CharacterSheet.Proofs.Rendering.FixedPoint
import CharacterSheet.Proofs.Trait.Dotline

/-!
# Processed advantages are finished

Whatever the rules, the player and the deviations put into a record, a processed
advantage has clean texts, a whole purchase level and a name to show, and what its kind
computes is in its range (`Advantage.Finished`). Each of these fields is computed by one
of the three groups of computed fields, and no later group touches it.
-/

namespace CharacterSheet

namespace Activation

theorem name_mem (activation : Activation) :
    activation.name ∈ ["controlled", "involuntary", "persistent"] := by
  cases activation <;> decide

/-- Without activations the field for them is missing, null or empty. -/
theorem of_ofField_nil
    {key : String}
    {value? : Option Value}
    (noActivation : ofField key value? = .ok []) :
    value? = none ∨ value? = some .null ∨ value? = some (.array []) := by
  unfold ofField at noActivation
  split at noActivation
  · exact .inl rfl
  · exact .inr (.inl rfl)
  · rw [mapM_eq_ok_iff, List.forall₂_nil_right_iff] at noActivation
    exact .inr (.inr (by rw [noActivation]))
  · rw [mapM_eq_ok_iff] at noActivation
    cases noActivation

end Activation

namespace Advantage

/-- A processed advantage in which nothing is left to do. -/
structure Finished (kind : AdvantageKind) (limit : Nat) (record : Value) : Prop where
  effect : ∃ html, record.field? "effect" = some (.ofText html) ∧ Engine.Clean html
  narrative : ∀ narrative,
    record.field? "narrative" = some (.string narrative) → Engine.Clean narrative.toList
  purchaseLevel : ∃ level least most,
    record.field? "purchaseLevel" = some (.number (.integer level least most))
  display : ∃ name, record.field? "display" = some (.string name)
  type : kind = .variation →
    ∃ type ∈ ["physical", "mental", "social"], record.field? "type" = some (.string type)
  dotline : kind = .scar →
    ∃ row : List Dot, row.length ≤ limit ∧
      record.field? "dotline" = some (.ofText (Dot.rowMarkup row))
  activation : kind = .scar → ∀ activation,
    record.field? "activation" = some activation →
      activation = .null ∨ activation = .array [] ∨
        ∃ words : List String,
          words ⊆ ["controlled", "involuntary", "persistent"] ∧
          activation = .array (words.map Value.string)

end Advantage

namespace PreparedAdvantage

variable {prepared : PreparedAdvantage} {engine : Engine} {scope : Scope} {fields : Fields}

theorem get?_purchaseLevel_commonFields (prepared : PreparedAdvantage) :
    ∃ level least most,
      Fields.get? "purchaseLevel" prepared.commonFields =
        some (.number (.integer level least most)) := by
  have found : Fields.get? "purchaseLevel" prepared.commonFields =
      some (.number (.ofWord prepared.purchaseLevel)) := by
    unfold commonFields
    dsimp only
    split <;> simp [Fields.get?_insert]
  exact ⟨_, _, _, found⟩

theorem get?_display_commonFields (prepared : PreparedAdvantage) :
    ∃ name, Fields.get? "display" prepared.commonFields = some (.string name) := by
  unfold commonFields
  dsimp only
  split <;> simp [Fields.get?_insert]

/-- A variation has one of the three types. -/
theorem get?_type_of_fields
    (isVariation : prepared.advantage.kind = .variation)
    (computed : prepared.fields engine scope = .ok fields) :
    ∃ type ∈ ["physical", "mental", "social"],
      Fields.get? "type" fields = some (.string type) := by
  unfold PreparedAdvantage.fields at computed
  rw [isVariation] at computed
  obtain ⟨type, rfl⟩ := typed_eq_ok computed
  refine ⟨type.name, ?_, Fields.get?_insert_self _ _ _⟩
  cases type <;> decide

/-- The dotline of a scar is a row within the limit. -/
theorem get?_dotline_of_fields
    (isScar : prepared.advantage.kind = .scar)
    (computed : prepared.fields engine scope = .ok fields) :
    ∃ row : List Dot, row.length ≤ engine.config.maxDots ∧
      Fields.get? "dotline" fields = some (.ofText (Dot.rowMarkup row)) := by
  unfold PreparedAdvantage.fields at computed
  rw [isScar] at computed
  obtain ⟨activations, -, rfl⟩ := scarred_eq_ok computed
  exact ⟨_, Dot.length_scarRow_le _ _ _ _, Fields.get?_insert_self _ _ _⟩

theorem get?_activation_withStats (scope : Scope) (fields : Fields) :
    Fields.get? "activation" (withStats scope fields) = Fields.get? "activation" fields := by
  unfold withStats
  split
  · rfl
  · simp [Fields.get?_insert]

/-- The activation of a scar is missing, null or empty, or a list of the known words. -/
theorem get?_activation_of_fields
    (isScar : prepared.advantage.kind = .scar)
    (computed : prepared.fields engine scope = .ok fields)
    {activation : Value}
    (found : Fields.get? "activation" fields = some activation) :
    activation = .null ∨ activation = .array [] ∨
      ∃ words : List String,
        words ⊆ ["controlled", "involuntary", "persistent"] ∧
        activation = .array (words.map Value.string) := by
  unfold PreparedAdvantage.fields at computed
  rw [isScar] at computed
  obtain ⟨activations, areActivations, rfl⟩ := scarred_eq_ok computed
  rw [Fields.get?_insert, if_neg (by decide)] at found
  unfold withActivations at found
  split at found
  · next noActivation =>
      rw [List.isEmpty_iff.1 noActivation] at areActivations
      rw [get?_activation_withStats] at found
      rw [found] at areActivations
      rcases Activation.of_ofField_nil areActivations with missing | null | empty
      · cases missing
      · exact .inl (Option.some.inj null)
      · exact .inr (.inl (Option.some.inj empty))
  · rw [Fields.get?_insert, if_neg (by decide), Fields.get?_insert_self] at found
    refine .inr (.inr ⟨activations.map Activation.name, fun word mem => ?_, ?_⟩)
    · obtain ⟨activation, -, rfl⟩ := List.mem_map.1 mem
      exact activation.name_mem
    · rw [← Option.some.inj found, List.map_map]
      rfl

theorem get?_effect_described
    (effect : Text)
    (narrative? citation? : Option Text)
    (fields : Fields) :
    Fields.get? "effect" (described effect narrative? citation? fields) =
      some (.ofText effect) := by
  cases narrative? <;> cases citation? <;>
    simp [described, AdvantageRecord.insertSome, Fields.get?_insert]

theorem get?_narrative_described
    (effect : Text)
    (narrative? citation? : Option Text)
    (fields : Fields) :
    Fields.get? "narrative" (described effect narrative? citation? fields) =
      (narrative?.map Value.ofText).or (Fields.get? "narrative" fields) := by
  cases narrative? <;> cases citation? <;>
    simp [described, AdvantageRecord.insertSome, Fields.get?_insert]

/-- Outside of any expansion an advantage gets a clean effect, and a clean narrative if it
has a text for one. -/
theorem clean_of_withTexts
    {result : Fields}
    {journal after : Journal}
    (outermost : journal.depth = 0)
    (done : (prepared.withTexts engine scope fields).on journal = (.ok result, after)) :
    (∃ html, Fields.get? "effect" result = some (.ofText html) ∧ Engine.Clean html) ∧
      (∀ narrative, Fields.get? "narrative" result = some (.string narrative) →
        Engine.Clean narrative.toList) ∧
      Fields.SameBeyond textNames fields result ∧
      after.depth = 0 := by
  obtain ⟨effect, between, narrative?, isEffect, rfl, told⟩ := on_withTexts_eq_ok done
  have depth : between.depth = 0 := (engine.depth_of_render isEffect).trans outermost
  have clean := Engine.clean_of_render outermost isEffect
  refine ⟨⟨effect, get?_effect_described _ _ _ _, clean⟩, ?_,
    sameBeyond_described _ _ _ _, ?_⟩
  · intro narrative found
    rw [get?_narrative_described] at found
    split at told
    · obtain ⟨html, rfl, isNarrative⟩ := told
      cases found
      simpa using Engine.clean_of_render depth isNarrative
    · next noText =>
        rw [told.1, Option.map_none, Option.none_or] at found
        rw [found] at noText
        cases noText
  · split at told
    · obtain ⟨html, -, isNarrative⟩ := told
      exact (engine.depth_of_render isNarrative).trans depth
    · rw [told.2]
      exact depth

end PreparedAdvantage

namespace Advantage

variable {kind : AdvantageKind} {engine : Engine} {scope : Scope}
  {player : Value} {fields : Fields} {journal after : Journal} {limit : Nat}

/-- Outside of any expansion a processed advantage is finished. -/
theorem finished_of_process
    (outermost : journal.depth = 0)
    (processed : (process kind engine scope player).on journal = (.ok fields, after)) :
    Finished kind engine.config.maxDots (.object fields) ∧ after.depth = 0 := by
  obtain ⟨prepared, before, isPrepared, computed, rendered⟩ := on_process_eq_ok processed
  obtain ⟨effect, narrative, texts, depth⟩ :=
    PreparedAdvantage.clean_of_withTexts outermost rendered
  obtain rfl := (PreparedAdvantage.ofRecord_eq_ok isPrepared).1
  have common := PreparedAdvantage.sameBeyond_fields computed
  refine ⟨?_, depth⟩
  refine
    { effect
      narrative
      purchaseLevel := ?_
      display := ?_
      type := fun isVariation => ?_
      dotline := fun isScar => ?_
      activation := fun isScar activation found => ?_ }
  · obtain ⟨level, least, most, isLevel⟩ := prepared.get?_purchaseLevel_commonFields
    exact ⟨level, least, most,
      (texts _ (by decide)).trans ((common _ (by decide)).trans isLevel)⟩
  · obtain ⟨name, isName⟩ := prepared.get?_display_commonFields
    exact ⟨name, (texts _ (by decide)).trans ((common _ (by decide)).trans isName)⟩
  · obtain ⟨type, mem, isType⟩ := PreparedAdvantage.get?_type_of_fields isVariation computed
    exact ⟨type, mem, (texts _ (by decide)).trans isType⟩
  · obtain ⟨row, within, isRow⟩ := PreparedAdvantage.get?_dotline_of_fields isScar computed
    exact ⟨row, within, (texts _ (by decide)).trans isRow⟩
  · have before : Fields.get? "activation" before = some activation :=
      (texts _ (by decide)).symm.trans found
    exact PreparedAdvantage.get?_activation_of_fields isScar computed before

/-- Fields that are none of the finished ones may change. -/
theorem Finished.sameBeyond
    {before after : Fields}
    {keys : List String}
    (finished : Finished kind limit (.object before))
    (same : Fields.SameBeyond keys before after)
    (others : ∀ key ∈ keys, key ∉ computedNames) :
    Finished kind limit (.object after) := by
  have kept (key : String) (computed : key ∈ computedNames) :
      (Value.object after).field? key = (Value.object before).field? key :=
    same key fun listed => others key listed computed
  exact
    { effect := kept "effect" (by decide) ▸ finished.effect
      narrative := kept "narrative" (by decide) ▸ finished.narrative
      purchaseLevel := kept "purchaseLevel" (by decide) ▸ finished.purchaseLevel
      display := kept "display" (by decide) ▸ finished.display
      type := kept "type" (by decide) ▸ finished.type
      dotline := kept "dotline" (by decide) ▸ finished.dotline
      activation := kept "activation" (by decide) ▸ finished.activation }

end Advantage
end CharacterSheet
