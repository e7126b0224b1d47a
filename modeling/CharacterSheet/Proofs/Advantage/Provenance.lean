import CharacterSheet.Proofs.Advantage.Record
import CharacterSheet.Proofs.Success
import CharacterSheet.Proofs.Value.Texts

/-!
# Where the texts of an advantage come from

An advantage is made of a player's record, of rule data and of what its deviations
replace, which is itself rule data or a part of the player's record. So the fields
that are neither computed nor read as the advantage's own hold only texts of the
player's record and the rule data (`PreparedAdvantage.within_of_ofRecord`). Among
these fields are those that grant further advantages.
-/

namespace CharacterSheet

variable {given : List String}

theorem RuleBook.within_of_record?
    {book : RuleBook}
    {category key : String}
    {record : Value}
    (within : book.categories.Within given)
    (found : book.record? category key = some record) :
    record.Within given := by
  unfold RuleBook.record? at found
  split at found
  · cases found
  · cases found
  · next isSome =>
      cases found
      obtain ⟨data, isData, isRecord⟩ := Option.bind_eq_some_iff.1 isSome
      exact (within.get? isData).field? isRecord

namespace Deviation

theorem within_of_ofFields?
    {fields : Fields}
    {deviation : Deviation}
    (within : fields.Within given)
    (read : ofFields? fields = some deviation) :
    deviation.replace.Within given := by
  simp only [ofFields?, Option.bind_eq_bind, Option.bind_eq_some_iff] at read
  obtain ⟨_, -, _, -, replace, isReplace, _, -, same⟩ := read
  cases same
  unfold fieldOr at isReplace
  split at isReplace
  · cases isReplace
    exact .nil
  · next value found =>
      have inside := (within.get? found).fields
      rw [isReplace] at inside
      exact inside

/-- What a definition replaces, it replaces with values of its own. -/
theorem within_of_ofValue?
    {definition : Value}
    {deviation : Deviation}
    (within : definition.Within given)
    (read : ofValue? definition = some deviation) :
    deviation.replace.Within given := by
  unfold ofValue? at read
  split at read
  · exact within_of_ofFields? (Value.within_object.1 within) read
  · next items =>
      split at read
      · cases read
      · refine within_of_ofFields? (fun field mem => ?_) read
        exact Value.within_array.1 within field.2 (List.of_mem_zip mem).2
  · cases read

theorem within_of_selected?
    {definitions : Fields}
    {selection definition : Value}
    {key : String}
    (within : definitions.Within given)
    (selected : selected? definitions selection = some (key, definition)) :
    definition.Within given := by
  obtain ⟨name, -, found⟩ := Option.bind_eq_some_iff.1 selected
  unfold find? at found
  split at found
  · next exact_key =>
      cases found
      exact within.get? exact_key
  · exact within _ (List.mem_of_find?_eq_some found)

end Deviation

namespace DeviationOutcome

theorem within_of_replace
    {outcome next : DeviationOutcome}
    {name property : String}
    {value : Value}
    (within : outcome.replacements.Within given)
    (inside : value.Within given)
    (replaced : outcome.replace name property value = .ok next) :
    next.replacements.Within given := by
  unfold replace at replaced
  split at replaced
  · cases replaced
  · cases replaced
    exact within.insert inside property

theorem within_of_add
    {patterns : PatternLibrary}
    {outcome next : DeviationOutcome}
    {name : String}
    {deviation : Deviation}
    (within : outcome.replacements.Within given)
    (inside : deviation.replace.Within given)
    (added : outcome.add patterns name deviation = .ok next) :
    next.replacements.Within given := by
  unfold add at added
  obtain ⟨replaced, isReplaced, rest⟩ := bind_eq_ok_iff.1 added
  obtain ⟨substitutions, -, same⟩ := bind_eq_ok_iff.1 rest
  cases same
  refine holds_of_foldlM (fun outcome => outcome.replacements.Within given)
    ?_ within isReplaced
  intro state field next before mem step
  exact within_of_replace before (inside field mem) step

/-- What selected deviations replace, they replace with values of their definitions. -/
theorem within_of_applySelected
    {patterns : PatternLibrary}
    {advantage : String}
    {definitions : Fields}
    {selected : List Value}
    {outcome : DeviationOutcome}
    (within : definitions.Within given)
    (applied : applySelected patterns advantage definitions selected = .ok outcome) :
    outcome.replacements.Within given := by
  refine holds_of_foldlM (fun outcome => outcome.replacements.Within given)
    ?_ .nil applied
  intro state selection next before _ step
  unfold select at step
  split at step
  · cases step
    exact before
  · next key definition isSelected =>
      split at step
      · cases step
      · next deviation isDeviation =>
          have inside := Deviation.within_of_selected? within isSelected
          exact within_of_add before (Deviation.within_of_ofValue? inside isDeviation) step

end DeviationOutcome

namespace AdvantageRecord

/-- A field of an overridden record is one of the overrides or was there before. -/
theorem get?_of_overridden
    {kind : AdvantageKind}
    {overrides : Fields}
    {record next : AdvantageRecord}
    (overridden : record.overridden kind overrides = .ok next)
    {key : String}
    {value : Value}
    (carried : key ∉ ownFields)
    (found : Fields.get? key next.toFields = some value) :
    (key, value) ∈ overrides ∨ Fields.get? key record.toFields = some value := by
  unfold AdvantageRecord.overridden at overridden
  split at overridden
  · cases overridden
    exact .inr found
  · rw [(readFrom_of_ofValue overridden).get?_toFields_of_carried carried] at found
    exact Fields.get?_of_insertAll found

end AdvantageRecord

namespace PreparedAdvantage

/-- Preparing layers the records, adds up the selected deviations, puts their fields in
place of those of the record, and selects the effect. -/
theorem ofRecord_eq_ok
    {kind : AdvantageKind}
    {player : Value}
    {rules : RuleBook}
    {patterns : PatternLibrary}
    {prepared : PreparedAdvantage}
    (isPrepared : ofRecord kind player rules patterns = .ok prepared) :
    prepared.advantage.kind = kind ∧
      ∃ key base outcome,
        player.textField? "key" = some key ∧
        layered kind key player rules = .ok base ∧
        DeviationOutcome.applySelected patterns key base.deviations base.selected =
          .ok outcome ∧
        base.overridden kind outcome.replacements = .ok prepared.advantage.record ∧
        selectEffect kind prepared.advantage.record prepared.purchaseLevel =
          .ok prepared.effect ∧
        prepared.purchaseLevel = (Advantage.mk kind base).purchaseLevel := by
  unfold ofRecord at isPrepared
  split at isPrepared
  · cases isPrepared
  · next key isKey =>
      obtain ⟨base, isBase, isPrepared⟩ := bind_eq_ok_iff.1 isPrepared
      obtain ⟨outcome, isOutcome, isPrepared⟩ := bind_eq_ok_iff.1 isPrepared
      obtain ⟨record, isRecord, isPrepared⟩ := bind_eq_ok_iff.1 isPrepared
      obtain ⟨effect, isEffect, same⟩ := bind_eq_ok_iff.1 isPrepared
      cases same
      exact ⟨rfl, key, base, outcome, isKey, isBase, isOutcome, isRecord, isEffect, rfl⟩

/-- A layered record has only texts of the player's record and of the rules, apart from
its own fields, and so have its deviations. -/
theorem within_of_layered
    {kind : AdvantageKind}
    {key : String}
    {player : Value}
    {rules : RuleBook}
    {record : AdvantageRecord}
    (rulesWithin : rules.categories.Within given)
    (playerWithin : player.Within given)
    (isLayered : layered kind key player rules = .ok record) :
    record.deviations.Within given ∧
      ∀ name value, name ∉ AdvantageRecord.ownFields →
        Fields.get? name record.toFields = some value → value.Within given := by
  have ruleWithin : ((rules.record? kind.category key).getD (.object [])).Within given := by
    cases found : rules.record? kind.category key with
    | none => exact Value.within_object.2 .nil
    | some rule => exact RuleBook.within_of_record? rulesWithin found
  have within := ruleWithin.advantageOver playerWithin
  have read := AdvantageRecord.readFrom_of_ofValue isLayered
  constructor
  · have definitions := read.definitions
    unfold AdvantageRecord.definitions? at definitions
    split at definitions
    · rw [← Option.some.inj definitions]
      exact .nil
    · next found =>
        rw [← Option.some.inj definitions]
        exact Value.within_object.1 (within.get? found)
    · cases definitions
  · intro name value carried found
    rw [read.get?_toFields_of_carried carried] at found
    exact within.get? found

/-- A prepared advantage has only texts of the player's record and of the rules, apart
from its own fields. -/
theorem within_of_ofRecord
    {kind : AdvantageKind}
    {player : Value}
    {rules : RuleBook}
    {patterns : PatternLibrary}
    {prepared : PreparedAdvantage}
    (rulesWithin : rules.categories.Within given)
    (playerWithin : player.Within given)
    (isPrepared : ofRecord kind player rules patterns = .ok prepared)
    {name : String}
    {value : Value}
    (carried : name ∉ AdvantageRecord.ownFields)
    (found : Fields.get? name prepared.advantage.record.toFields = some value) :
    value.Within given := by
  obtain ⟨-, key, base, outcome, -, isBase, isOutcome, isRecord, -⟩ := ofRecord_eq_ok isPrepared
  obtain ⟨deviations, carriedWithin⟩ := within_of_layered rulesWithin playerWithin isBase
  have replacements := DeviationOutcome.within_of_applySelected deviations isOutcome
  rcases AdvantageRecord.get?_of_overridden isRecord carried found with replaced | before
  · exact replacements _ replaced
  · exact carriedWithin name value carried before

end PreparedAdvantage
end CharacterSheet
