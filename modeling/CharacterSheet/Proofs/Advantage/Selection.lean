import Mathlib.Data.List.Perm.Basic
import CharacterSheet.Pattern.Linear
import CharacterSheet.Proofs.Advantage.Replacement

/-!
# What a selection adds up to

A selection adds up exactly if every definition that it means can be read, every pattern of these
can be made, and no field is replaced by two of its entries. What it adds up to is then the sum of
what the deviations do, in their order (`DeviationOutcome.IsSum`). So in any other order the same
selection adds up as well, and it replaces the same fields by the same values. Which patterns can be
made is up to the library of patterns, and all of this holds for any.
-/

namespace CharacterSheet

/-- A deviation that a selection means, with the key of its definition. -/
structure ChosenDeviation where
  key : String
  deviation : Deviation

namespace ChosenDeviation

/-- The name under which the deviation is applied: its own, else the key of its definition. -/
def name (chosen : ChosenDeviation) : String := chosen.deviation.name?.getD chosen.key

/-- The fields that the deviation replaces. -/
def replaced (chosen : ChosenDeviation) : List String := Fields.keys chosen.deviation.replace

/-- All patterns of the deviation can be made. -/
def Made (patterns : PatternLibrary) (chosen : ChosenDeviation) : Prop :=
  ∀ rule ∈ chosen.deviation.substitutions,
    ∃ substitution, Substitution.ofRule patterns rule = .ok substitution

/-- No field is replaced by both deviations. -/
def Apart (one other : ChosenDeviation) : Prop := ∀ field ∈ one.replaced, field ∉ other.replaced

theorem Apart.symm
    {one other : ChosenDeviation}
    (apart : one.Apart other) :
    other.Apart one :=
  fun field replaced both => apart field both replaced

/-- Deviations go together if all of their patterns can be made and no field is replaced by two of
them. -/
structure Compatible (patterns : PatternLibrary) (chosen : List ChosenDeviation) : Prop where
  made : ∀ choice ∈ chosen, choice.Made patterns
  apart : chosen.Pairwise Apart

theorem Compatible.perm
    {patterns : PatternLibrary}
    {chosen others : List ChosenDeviation}
    (compatible : Compatible patterns chosen)
    (permutes : others.Perm chosen) :
    Compatible patterns others where
  made choice mem := compatible.made choice (permutes.mem_iff.1 mem)
  apart := (permutes.pairwise_iff fun apart => apart.symm).2 compatible.apart

end ChosenDeviation

namespace Deviation

/-- The definitions that the entries of a selection mean, in their order. An entry that means none
is passed over. -/
def meant (definitions : Fields) (selected : List Value) : List (String × Value) :=
  selected.filterMap (selected? definitions)

/-- All definitions that a selection means can be read, as these deviations. -/
def Chooses
    (definitions : Fields)
    (selected : List Value)
    (chosen : List ChosenDeviation) : Prop :=
  List.Forall₂
    (fun definition choice =>
      choice.key = definition.1 ∧ ofValue? definition.2 = some choice.deviation)
    (meant definitions selected) chosen

variable {definitions : Fields}

theorem sorted_replace_of_ofFields?
    {fields : Fields}
    {deviation : Deviation}
    (ordered : ∀ key value, Fields.get? key fields = some value → value.Ordered)
    (read : ofFields? fields = some deviation) :
    deviation.replace.Sorted := by
  simp only [ofFields?, Option.bind_eq_bind, Option.bind_eq_some_iff] at read
  obtain ⟨_, -, _, -, replace, isReplace, _, -, same⟩ := read
  cases same
  unfold fieldOr at isReplace
  split at isReplace
  · cases isReplace
    exact List.Pairwise.nil
  · next value found =>
      have valueOrdered := ordered _ _ found
      cases value with
      | object entries =>
          cases isReplace
          exact (Value.ordered_object.1 valueOrdered).1
      | _ => cases isReplace

/-- No definition replaces a field twice. -/
theorem sorted_replace
    {definition : Value}
    {deviation : Deviation}
    (ordered : definition.Ordered)
    (read : ofValue? definition = some deviation) :
    deviation.replace.Sorted := by
  unfold ofValue? at read
  split at read
  · exact sorted_replace_of_ofFields? (fun key value found => ordered.get? found) read
  · next items =>
      split at read
      · cases read
      · refine sorted_replace_of_ofFields? (fun key value found => ?_) read
        have mem := (List.of_mem_zip (Fields.mem_of_get? found)).2
        exact Value.ordered_array.1 ordered value mem
  · cases read

theorem mem_of_selected?
    {selection : Value}
    {definition : String × Value}
    (selected : selected? definitions selection = some definition) :
    definition ∈ definitions := by
  obtain ⟨name, -, found⟩ := Option.bind_eq_some_iff.1 selected
  unfold find? at found
  split at found
  · next exact_key =>
      cases found
      exact Fields.mem_of_get? exact_key
  · exact List.mem_of_find?_eq_some found

theorem Chooses.sorted_replace
    {selected : List Value}
    {chosen : List ChosenDeviation}
    (ordered : (Value.object definitions).Ordered)
    (chooses : Chooses definitions selected chosen) :
    ∀ choice ∈ chosen, choice.deviation.replace.Sorted := by
  intro choice mem
  obtain ⟨definition, isMeant, -, read⟩ := exists_of_mem_of_forall₂ chooses mem
  obtain ⟨selection, -, selected⟩ := List.mem_filterMap.1 isMeant
  have each := (Value.ordered_object.1 ordered).2
  exact Deviation.sorted_replace (each definition (mem_of_selected? selected)) read

/-- In another order a selection chooses the same deviations in another order. -/
theorem Chooses.perm
    {selected permuted : List Value}
    {chosen : List ChosenDeviation}
    (chooses : Chooses definitions selected chosen)
    (permutes : permuted.Perm selected) :
    ∃ others, Chooses definitions permuted others ∧ others.Perm chosen :=
  List.perm_comp_forall₂ (permutes.filterMap (selected? definitions)) chooses

/-- What a selection chooses depends on nothing else. -/
theorem Chooses.unique
    {selected : List Value}
    {chosen others : List ChosenDeviation}
    (chooses : Chooses definitions selected chosen)
    (otherwise : Chooses definitions selected others) :
    chosen = others := by
  refine Relator.RightUnique.forall₂ ?_ chooses otherwise
  rintro definition ⟨_, deviation⟩ ⟨_, other⟩ ⟨rfl, isDeviation⟩ ⟨rfl, isOther⟩
  exact congrArg (ChosenDeviation.mk _) (Option.some.inj (isDeviation.symm.trans isOther))

theorem exists_compatible_of_perm
    {patterns : PatternLibrary}
    {selected permuted : List Value}
    (permutes : permuted.Perm selected) :
    (∃ chosen, Chooses definitions selected chosen ∧
      ChosenDeviation.Compatible patterns chosen) →
      ∃ chosen, Chooses definitions permuted chosen ∧
        ChosenDeviation.Compatible patterns chosen := by
  rintro ⟨chosen, chooses, compatible⟩
  obtain ⟨others, otherwise, reordered⟩ := chooses.perm permutes
  exact ⟨others, otherwise, compatible.perm reordered⟩

end Deviation

namespace DeviationOutcome

variable {patterns : PatternLibrary} {outcome next : DeviationOutcome} {name field : String}
  {deviation : Deviation}

/-- A deviation has replaced the field. -/
def IsReplaced (outcome : DeviationOutcome) (field : String) : Prop :=
  ∃ name, outcome.replacedBy.lookup field = some name

/-- What a deviation adds to an outcome. -/
structure Adds
    (patterns : PatternLibrary)
    (outcome : DeviationOutcome)
    (choice : ChosenDeviation)
    (next : DeviationOutcome) : Prop where
  magnitude : next.magnitude = outcome.magnitude + choice.deviation.magnitude
  applied : next.applied = outcome.applied ++ [choice.name]
  substitutions : ∃ made,
    choice.deviation.substitutions.mapM (Substitution.ofRule patterns) = .ok made ∧
      next.substitutions = outcome.substitutions ++ made
  replaced : ∀ field, next.IsReplaced field ↔ outcome.IsReplaced field ∨ field ∈ choice.replaced

/-- Nothing but the replaced fields is different. -/
structure SameBut (outcome next : DeviationOutcome) : Prop where
  magnitude : next.magnitude = outcome.magnitude
  applied : next.applied = outcome.applied
  substitutions : next.substitutions = outcome.substitutions

theorem exists_replace_iff
    {value : Value} :
    (∃ next, outcome.replace name field value = .ok next) ↔ ¬ outcome.IsReplaced field := by
  unfold replace IsReplaced
  cases outcome.replacedBy.lookup field <;> simp

theorem of_replace
    {value : Value}
    (replaced : outcome.replace name field value = .ok next) :
    outcome.SameBut next ∧
      ∀ other, next.IsReplaced other ↔ outcome.IsReplaced other ∨ field = other := by
  unfold replace at replaced
  split at replaced
  · cases replaced
  · cases replaced
    refine ⟨⟨rfl, rfl, rfl⟩, fun other => ?_⟩
    unfold IsReplaced
    rw [List.lookup_cons]
    by_cases same : field = other
    · simp [same]
    · have apart : (other == field) = false := beq_false_of_ne (Ne.symm same)
      simp [apart, same]

/-- Replaces fields on behalf of a deviation. -/
def replaceAll (name : String) (outcome : DeviationOutcome) (fields : Fields) :
    Except Fault DeviationOutcome :=
  fields.foldlM (fun outcome (property, value) => outcome.replace name property value) outcome

theorem of_replaceAll
    {fields : Fields}
    (replaced : outcome.replaceAll name fields = .ok next) :
    outcome.SameBut next ∧
      ∀ other, next.IsReplaced other ↔ outcome.IsReplaced other ∨ other ∈ Fields.keys fields := by
  have gathered := gathered_of_foldlM (SameBut outcome) IsReplaced
    (fun field other => field.1 = other) ⟨rfl, rfl, rfl⟩ replaced
    fun state field next before step => by
      obtain ⟨same, more⟩ := of_replace step
      refine ⟨⟨?_, ?_, ?_⟩, more⟩
      · exact same.magnitude.trans before.magnitude
      · exact same.applied.trans before.applied
      · exact same.substitutions.trans before.substitutions
  refine ⟨gathered.1, fun other => (gathered.2 other).trans ?_⟩
  simp [Fields.keys]

/-- Fields can be replaced exactly if none of them has been. -/
theorem exists_replaceAll_iff
    {fields : Fields}
    (distinct : (Fields.keys fields).Nodup) :
    (∃ next, outcome.replaceAll name fields = .ok next) ↔
      ∀ field ∈ Fields.keys fields, ¬ outcome.IsReplaced field := by
  unfold replaceAll
  induction fields generalizing outcome with
  | nil => exact iff_of_true ⟨outcome, rfl⟩ (by simp [Fields.keys])
  | cons first fields inductionHypothesis =>
      obtain ⟨property, value⟩ := first
      obtain ⟨notLater, distinct⟩ := List.nodup_cons.1 distinct
      have isKeys : Fields.keys ((property, value) :: fields) = property :: Fields.keys fields :=
        rfl
      have first : (∃ next, outcome.replace name property value = .ok next) ↔
          ¬ outcome.IsReplaced property := exists_replace_iff
      rw [isKeys, List.forall_mem_cons, ← first]
      simp only [List.foldlM_cons, bind_eq_ok_iff]
      constructor
      · rintro ⟨next, middle, step, rest⟩
        have free := (inductionHypothesis distinct).1 ⟨next, rest⟩
        refine ⟨⟨middle, step⟩, fun field mem before => free field mem ?_⟩
        exact ((of_replace step).2 field).2 (.inl before)
      · rintro ⟨⟨middle, step⟩, free⟩
        have later : ∀ field ∈ Fields.keys fields, ¬ middle.IsReplaced field := by
          intro field mem replaced
          rcases ((of_replace step).2 field).1 replaced with before | rfl
          · exact free field mem before
          · exact notLater mem
        obtain ⟨next, rest⟩ := (inductionHypothesis distinct).2 later
        exact ⟨next, middle, step, rest⟩

theorem adds_of_add
    {choice : ChosenDeviation}
    (added : outcome.add patterns choice.name choice.deviation = .ok next) :
    outcome.Adds patterns choice next := by
  obtain ⟨replaced, isReplaced, rest⟩ := bind_eq_ok_iff.1 added
  obtain ⟨made, isMade, same⟩ := bind_eq_ok_iff.1 rest
  cases same
  obtain ⟨⟨magnitude, applied, substitutions⟩, more⟩ := of_replaceAll isReplaced
  constructor
  case magnitude => exact magnitude
  case applied => exact congrArg (· ++ [choice.name]) applied
  case substitutions => exact ⟨made, isMade, congrArg (· ++ made) substitutions⟩
  case replaced => exact more

/-- A deviation can be added exactly if its patterns can be made and none of its fields has been
replaced. -/
theorem exists_add_iff
    {choice : ChosenDeviation}
    (distinct : choice.replaced.Nodup) :
    (∃ next, outcome.add patterns choice.name choice.deviation = .ok next) ↔
      choice.Made patterns ∧ ∀ field ∈ choice.replaced, ¬ outcome.IsReplaced field := by
  let raised := { outcome with magnitude := outcome.magnitude + choice.deviation.magnitude }
  have fresh : (∃ next, raised.replaceAll choice.name choice.deviation.replace = .ok next) ↔
      ∀ field ∈ choice.replaced, ¬ outcome.IsReplaced field :=
    exists_replaceAll_iff distinct
  have made :
      (∃ made, choice.deviation.substitutions.mapM (Substitution.ofRule patterns) = .ok made) ↔
        choice.Made patterns :=
    exists_mapM_eq_ok_iff
  constructor
  · rintro ⟨next, added⟩
    obtain ⟨replaced, isReplaced, rest⟩ := bind_eq_ok_iff.1 added
    obtain ⟨substitutions, isMade, -⟩ := bind_eq_ok_iff.1 rest
    exact ⟨made.1 ⟨substitutions, isMade⟩, fresh.1 ⟨replaced, isReplaced⟩⟩
  · rintro ⟨isMade, isFresh⟩
    obtain ⟨replaced, isReplaced⟩ := fresh.2 isFresh
    obtain ⟨substitutions, areMade⟩ := made.2 isMade
    exact ⟨_, bind_eq_ok_iff.2
      ⟨replaced, isReplaced, bind_eq_ok_iff.2 ⟨substitutions, areMade, rfl⟩⟩⟩

/-- Adds chosen deviations. -/
def addAll (patterns : PatternLibrary) (outcome : DeviationOutcome)
    (chosen : List ChosenDeviation) : Except Fault DeviationOutcome :=
  chosen.foldlM (fun outcome choice => outcome.add patterns choice.name choice.deviation) outcome

/-- Deviations can be added one after the other exactly if each one can and no two of them replace
the same field. -/
theorem exists_addAll_iff
    {chosen : List ChosenDeviation}
    (distinct : ∀ choice ∈ chosen, choice.replaced.Nodup) :
    (∃ next, outcome.addAll patterns chosen = .ok next) ↔
      (∀ choice ∈ chosen,
        choice.Made patterns ∧ ∀ field ∈ choice.replaced, ¬ outcome.IsReplaced field) ∧
        chosen.Pairwise ChosenDeviation.Apart := by
  unfold addAll
  induction chosen generalizing outcome with
  | nil => exact iff_of_true ⟨outcome, rfl⟩ (by simp)
  | cons first chosen inductionHypothesis =>
      obtain ⟨firstDistinct, distinct⟩ := List.forall_mem_cons.1 distinct
      rw [List.forall_mem_cons, List.pairwise_cons, ← exists_add_iff firstDistinct]
      simp only [List.foldlM_cons, bind_eq_ok_iff]
      constructor
      · rintro ⟨next, middle, step, rest⟩
        obtain ⟨free, apart⟩ := (inductionHypothesis distinct).1 ⟨next, rest⟩
        have replaced := (adds_of_add step).replaced
        refine ⟨⟨⟨middle, step⟩, fun choice mem => ?_⟩, fun choice mem field both => ?_, apart⟩
        · obtain ⟨made, fresh⟩ := free choice mem
          exact ⟨made, fun field isField before =>
            fresh field isField ((replaced field).2 (.inl before))⟩
        · exact fun isField => (free choice mem).2 field isField ((replaced field).2 (.inr both))
      · rintro ⟨⟨⟨middle, step⟩, free⟩, firstApart, apart⟩
        have later : ∀ choice ∈ chosen,
            choice.Made patterns ∧ ∀ field ∈ choice.replaced, ¬ middle.IsReplaced field := by
          intro choice mem
          refine ⟨(free choice mem).1, fun field isField replaced => ?_⟩
          rcases ((adds_of_add step).replaced field).1 replaced with before | both
          · exact (free choice mem).2 field isField before
          · exact firstApart choice mem field both isField
        obtain ⟨next, rest⟩ := (inductionHypothesis distinct).2 ⟨later, apart⟩
        exact ⟨next, middle, step, rest⟩

/-- What deviations add up to: their magnitudes are summed in order, their names and patterns stand
one behind the other, and a field is replaced by what one of them puts in its place. -/
structure IsSum
    (patterns : PatternLibrary)
    (chosen : List ChosenDeviation)
    (outcome : DeviationOutcome) : Prop where
  magnitude : outcome.magnitude =
    (chosen.map fun choice => choice.deviation.magnitude).foldl (· + ·) 0.0
  applied : outcome.applied = chosen.map ChosenDeviation.name
  sorted : outcome.replacements.Sorted
  replaced : ∀ field value, Fields.get? field outcome.replacements = some value ↔
    ∃ choice ∈ chosen, Fields.get? field choice.deviation.replace = some value
  substitutions :
    List.Forall₂ (fun rule substitution => Substitution.ofRule patterns rule = .ok substitution)
      (chosen.flatMap fun choice => choice.deviation.substitutions) outcome.substitutions

theorem of_addAll
    {chosen : List ChosenDeviation}
    (added : outcome.addAll patterns chosen = .ok next) :
    next.magnitude =
        (chosen.map fun choice => choice.deviation.magnitude).foldl (· + ·) outcome.magnitude ∧
      next.applied = outcome.applied ++ chosen.map ChosenDeviation.name ∧
      ∃ made, (chosen.flatMap fun choice => choice.deviation.substitutions).mapM
          (Substitution.ofRule patterns) = .ok made ∧
        next.substitutions = outcome.substitutions ++ made := by
  unfold addAll at added
  induction chosen generalizing outcome with
  | nil =>
      cases added
      exact ⟨rfl, (List.append_nil _).symm, [], rfl, (List.append_nil _).symm⟩
  | cons first chosen inductionHypothesis =>
      rw [List.foldlM_cons] at added
      obtain ⟨middle, step, rest⟩ := bind_eq_ok_iff.1 added
      obtain ⟨magnitude, applied, ⟨firstMade, isFirstMade, substitutions⟩, -⟩ := adds_of_add step
      obtain ⟨laterMagnitude, laterApplied, made, isMade, laterSubstitutions⟩ :=
        inductionHypothesis rest
      refine ⟨?_, ?_, firstMade ++ made, ?_, ?_⟩
      · rw [laterMagnitude, magnitude]
        rfl
      · rw [laterApplied, applied, List.append_assoc]
        rfl
      · rw [List.flatMap_cons, List.mapM_append]
        exact bind_eq_ok_iff.2 ⟨firstMade, isFirstMade, bind_eq_ok_iff.2 ⟨made, isMade, rfl⟩⟩
      · rw [laterSubstitutions, substitutions, List.append_assoc]

theorem isSum_of_addAll
    {chosen : List ChosenDeviation}
    (added : addAll patterns {} chosen = .ok outcome) :
    outcome.IsSum patterns chosen := by
  obtain ⟨magnitude, applied, made, isMade, substitutions⟩ := of_addAll added
  have begins : Recorded {} := ⟨List.Pairwise.nil, fun _ _ => rfl⟩
  obtain ⟨recorded, gathered⟩ := gathered_of_foldlM Recorded Gives
    (fun choice part => Fields.get? part.1 choice.deviation.replace = some part.2) begins added
    fun state choice next before step => gives_of_add before step
  constructor
  case magnitude => exact magnitude
  case applied => exact applied
  case sorted => exact recorded.sorted
  case replaced =>
    intro field value
    refine (gathered (field, value)).trans ?_
    simp [Gives]
  case substitutions =>
    rw [substitutions]
    exact mapM_eq_ok_iff.1 isMade

/-- A selection is applied by adding the deviations that it chooses. -/
theorem foldlM_select_eq_ok_iff
    {advantage : String}
    {definitions : Fields}
    {selected : List Value} :
    selected.foldlM (select patterns advantage definitions) outcome = .ok next ↔
      ∃ chosen,
        Deviation.Chooses definitions selected chosen ∧
          outcome.addAll patterns chosen = .ok next := by
  induction selected generalizing outcome with
  | nil =>
      constructor
      · intro done
        exact ⟨[], .nil, done⟩
      · rintro ⟨chosen, chooses, added⟩
        cases chooses
        exact added
  | cons selection selected inductionHypothesis =>
      rw [List.foldlM_cons, bind_eq_ok_iff]
      simp only [inductionHypothesis]
      unfold select Deviation.Chooses Deviation.meant
      rw [List.filterMap_cons]
      cases Deviation.selected? definitions selection with
      | none => simp
      | some definition =>
          obtain ⟨key, value⟩ := definition
          constructor
          · rintro ⟨middle, step, chosen, chooses, added⟩
            dsimp only at step
            split at step
            · cases step
            · next deviation isDeviation =>
                refine ⟨⟨key, deviation⟩ :: chosen, .cons ⟨rfl, isDeviation⟩ chooses, ?_⟩
                exact bind_eq_ok_iff.2 ⟨middle, step, added⟩
          · rintro ⟨chosen, chooses, added⟩
            obtain ⟨⟨_, deviation⟩, others, ⟨rfl, isDeviation⟩, rest, rfl⟩ :=
              List.forall₂_cons_left_iff.1 chooses
            unfold addAll at added
            rw [List.foldlM_cons, bind_eq_ok_iff] at added
            obtain ⟨middle, step, added⟩ := added
            refine ⟨middle, ?_, others, rest, added⟩
            dsimp only
            rw [isDeviation]
            exact step

/-- A selection is applied by adding the deviations that it chooses. -/
theorem applySelected_eq_ok_iff
    {advantage : String}
    {definitions : Fields}
    {selected : List Value} :
    applySelected patterns advantage definitions selected = .ok outcome ↔
      ∃ chosen, Deviation.Chooses definitions selected chosen ∧
        addAll patterns {} chosen = .ok outcome :=
  foldlM_select_eq_ok_iff

/-- A selection can be applied exactly if the deviations that it chooses go together. -/
theorem exists_applySelected_iff
    {advantage : String}
    {definitions : Fields}
    (ordered : (Value.object definitions).Ordered)
    {selected : List Value} :
    (∃ outcome, applySelected patterns advantage definitions selected = .ok outcome) ↔
      ∃ chosen, Deviation.Chooses definitions selected chosen ∧
        ChosenDeviation.Compatible patterns chosen := by
  simp only [applySelected_eq_ok_iff]
  rw [exists_comm]
  refine exists_congr fun chosen => ?_
  rw [exists_and_left]
  refine and_congr_right fun chooses => ?_
  have distinct : ∀ choice ∈ chosen, choice.replaced.Nodup := fun choice mem =>
    (chooses.sorted_replace ordered choice mem).nodup_keys
  rw [exists_addAll_iff distinct]
  have fresh (field : String) : ¬ IsReplaced {} field := by
    rintro ⟨name, ⟨⟩⟩
  constructor
  · exact fun ⟨each, apart⟩ => ⟨fun choice mem => (each choice mem).1, apart⟩
  · rintro ⟨made, apart⟩
    exact ⟨fun choice mem => ⟨made choice mem, fun field _ => fresh field⟩, apart⟩

theorem isSum_of_applySelected
    {advantage : String}
    {definitions : Fields}
    {selected : List Value}
    (applied : applySelected patterns advantage definitions selected = .ok outcome) :
    ∃ chosen, Deviation.Chooses definitions selected chosen ∧ outcome.IsSum patterns chosen := by
  obtain ⟨chosen, chooses, added⟩ := applySelected_eq_ok_iff.1 applied
  exact ⟨chosen, chooses, isSum_of_addAll added⟩

/-- The same deviations in another order replace the same fields and have the same names. -/
theorem IsSum.perm
    {other : DeviationOutcome}
    {chosen others : List ChosenDeviation}
    (isSum : outcome.IsSum patterns chosen)
    (otherIsSum : other.IsSum patterns others)
    (permutes : chosen.Perm others) :
    outcome.replacements = other.replacements ∧ outcome.applied.Perm other.applied := by
  constructor
  · refine isSum.sorted.eq_of_mem_iff otherIsSum.sorted fun field => ?_
    rw [isSum.sorted.mem_iff, otherIsSum.sorted.mem_iff, isSum.replaced, otherIsSum.replaced]
    simp only [permutes.mem_iff]
  · rw [isSum.applied, otherIsSum.applied]
    exact permutes.map ChosenDeviation.name

/-- A selection of well-formed definitions adds up exactly if every definition that it means can be
read, every pattern of these can be made, and no field is replaced by two of its entries. Then it
adds up to the sum of the deviations that it means, in the order of the entries. In any other order
it adds up just as well, to the same replaced fields and the same names in another order. -/
theorem selection_adds_up
    (patterns : PatternLibrary)
    (advantage : String)
    {definitions : Fields}
    (ordered : (Value.object definitions).Ordered)
    (selected : List Value) :
    ((∃ outcome, applySelected patterns advantage definitions selected = .ok outcome) ↔
      ∃ chosen, Deviation.Chooses definitions selected chosen ∧
        ChosenDeviation.Compatible patterns chosen) ∧
    (∀ outcome, applySelected patterns advantage definitions selected = .ok outcome →
      ∃ chosen, Deviation.Chooses definitions selected chosen ∧ outcome.IsSum patterns chosen) ∧
    ∀ permuted, permuted.Perm selected →
      ((∃ outcome, applySelected patterns advantage definitions permuted = .ok outcome) ↔
        ∃ outcome, applySelected patterns advantage definitions selected = .ok outcome) ∧
      ∀ one other, applySelected patterns advantage definitions permuted = .ok one →
        applySelected patterns advantage definitions selected = .ok other →
        one.replacements = other.replacements ∧ one.applied.Perm other.applied := by
  refine ⟨exists_applySelected_iff ordered, fun _ => isSum_of_applySelected,
    fun permuted permutes => ⟨?_, ?_⟩⟩
  · rw [exists_applySelected_iff ordered, exists_applySelected_iff ordered]
    exact ⟨Deviation.exists_compatible_of_perm permutes.symm,
      Deviation.exists_compatible_of_perm permutes⟩
  · intro one other oneApplied otherApplied
    obtain ⟨chosen, chooses, isSum⟩ := isSum_of_applySelected oneApplied
    obtain ⟨others, otherChooses, otherIsSum⟩ := isSum_of_applySelected otherApplied
    obtain ⟨same, sameChooses, samePermutes⟩ := otherChooses.perm permutes
    rw [chooses.unique sameChooses] at isSum
    exact isSum.perm otherIsSum samePermutes

/-- Two deviations of claws selected in either order, by a key in other letter case and by name,
together with entries that mean none. -/
theorem selection_adds_up_of_claws :
    let definitions : Fields :=
      [("Long", .object [("name", .string "Longer"),
          ("replace", .object [("effect", .string "Long claws.")])]),
        ("Sharp", .object [("replace", .object [("tags", .array [])])])]
    let selected : List Value :=
      [.string "sharp", .null, .object [("name", .string "Long")], .string "Blunt"]
    (Value.object definitions).Ordered ∧
      ∃ outcome reversed,
        applySelected .linear "claws" definitions selected = .ok outcome ∧
        applySelected .linear "claws" definitions selected.reverse = .ok reversed ∧
        outcome.applied = ["Sharp", "Longer"] ∧
        reversed.replacements = outcome.replacements ∧ reversed.applied.Perm outcome.applied := by
  intro definitions selected
  have ordered : (Value.object definitions).Ordered := by decide +kernel
  have shown : (applySelected .linear "claws" definitions selected).toOption.map applied =
      some ["Sharp", "Longer"] := by
    decide +kernel
  obtain ⟨-, -, permuted⟩ := selection_adds_up .linear "claws" ordered selected
  obtain ⟨alike, same⟩ := permuted selected.reverse (List.reverse_perm selected)
  rcases isOutcome : applySelected .linear "claws" definitions selected with fault | outcome
  · rw [isOutcome] at shown
    cases shown
  · rw [isOutcome] at shown
    obtain ⟨reversed, isReversed⟩ := alike.2 ⟨outcome, isOutcome⟩
    exact ⟨ordered, outcome, reversed, rfl, isReversed, Option.some.inj shown,
      same reversed outcome isReversed isOutcome⟩

end DeviationOutcome
end CharacterSheet
