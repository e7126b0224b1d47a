import CharacterSheet.Advantage.Deviation
import CharacterSheet.Proofs.Success
import CharacterSheet.Proofs.Value.Ordered

/-!
# What deviations replace

No two selected deviations replace the same field, and none replaces a field twice. So
the fields that a selection has replaced are exactly those that one of the selected
deviations replaces (`DeviationOutcome.get?_replacements_iff`).
-/

namespace CharacterSheet

namespace Deviation

/-- A selection means a deviation that replaces the field by the value. -/
def Replaces
    (definitions : Fields)
    (selection : Value)
    (field : String)
    (value : Value) : Prop :=
  ∃ name definition deviation,
    selected? definitions selection = some (name, definition) ∧
    ofValue? definition = some deviation ∧
    Fields.get? field deviation.replace = some value

end Deviation

namespace DeviationOutcome

/-- The replaced fields are in order, and each of them is known to be replaced. -/
structure Recorded (outcome : DeviationOutcome) : Prop where
  sorted : outcome.replacements.Sorted
  fresh : ∀ field, outcome.replacedBy.lookup field = none →
    Fields.get? field outcome.replacements = none

/-- A field is replaced by a value. -/
def Gives (outcome : DeviationOutcome) (part : String × Value) : Prop :=
  Fields.get? part.1 outcome.replacements = some part.2

variable {patterns : PatternLibrary} {outcome next : DeviationOutcome} {name : String}

/-- A field that is replaced is not replaced yet, and joins those that are. -/
theorem gives_of_replace
    {field : String × Value}
    (recorded : outcome.Recorded)
    (replaced : outcome.replace name field.1 field.2 = .ok next) :
    next.Recorded ∧ ∀ part, next.Gives part ↔ outcome.Gives part ∨ field = part := by
  unfold replace at replaced
  split at replaced
  · cases replaced
  · next isFresh =>
      cases replaced
      have missing := recorded.fresh field.1 isFresh
      refine ⟨⟨recorded.sorted.insert _ _, fun other fresh => ?_⟩, fun part => ?_⟩
      · have apart : other ≠ field.1 := by
          rintro rfl
          simp at fresh
        rw [List.lookup_cons, beq_false_of_ne apart] at fresh
        rw [Fields.get?_insert, if_neg apart.symm]
        exact recorded.fresh other fresh
      · obtain ⟨property, value⟩ := field
        obtain ⟨key, given⟩ := part
        unfold Gives
        rw [Fields.get?_insert]
        split
        · next same =>
            cases same
            simp [missing]
        · next apart => simp [apart]

/-- A deviation replaces the fields that its definition says, and no others. -/
theorem gives_of_add
    {deviation : Deviation}
    (recorded : outcome.Recorded)
    (added : outcome.add patterns name deviation = .ok next) :
    next.Recorded ∧ ∀ part, next.Gives part ↔
      outcome.Gives part ∨ Fields.get? part.1 deviation.replace = some part.2 := by
  obtain ⟨replaced, isReplaced, rest⟩ := bind_eq_ok_iff.1 added
  obtain ⟨substitutions, -, same⟩ := bind_eq_ok_iff.1 rest
  cases same
  have begins : Recorded { outcome with magnitude := outcome.magnitude + deviation.magnitude } :=
    ⟨recorded.sorted, recorded.fresh⟩
  obtain ⟨after, gathered⟩ :=
    gathered_of_foldlM Recorded Gives (fun field part => field = part) begins isReplaced
      fun state field next before step => gives_of_replace before step
  refine ⟨⟨after.sorted, after.fresh⟩, fun part => (gathered part).trans (or_congr_right ?_)⟩
  constructor
  · rintro ⟨field, mem, rfl⟩
    -- what the definition lists first for the key was replaced as well, so it is the same
    obtain ⟨first, found⟩ := Fields.exists_get?_of_mem mem
    have firstly := (gathered (field.1, first)).2 (.inr ⟨_, Fields.mem_of_get? found, rfl⟩)
    have lastly := (gathered field).2 (.inr ⟨field, mem, rfl⟩)
    exact found.trans (firstly.symm.trans lastly)
  · exact fun found => ⟨part, Fields.mem_of_get? found, rfl⟩

/-- A selection replaces what the deviation replaces that it means. -/
theorem gives_of_select
    {advantage : String}
    {definitions : Fields}
    {selection : Value}
    (recorded : outcome.Recorded)
    (selected : select patterns advantage definitions outcome selection = .ok next) :
    next.Recorded ∧ ∀ part, next.Gives part ↔
      outcome.Gives part ∨ Deviation.Replaces definitions selection part.1 part.2 := by
  unfold select at selected
  split at selected
  · next isNone =>
      cases selected
      simp [Deviation.Replaces, isNone, recorded]
  · next name definition isSome =>
      split at selected
      · cases selected
      · next deviation isDeviation =>
          have added := gives_of_add recorded selected
          simpa [Deviation.Replaces, isSome, isDeviation] using added

/-- The replaced fields are those that a selected deviation replaces, each with the value that
the deviation gives it. -/
theorem get?_replacements_iff
    {advantage : String}
    {definitions : Fields}
    {selected : List Value}
    (applied : applySelected patterns advantage definitions selected = .ok outcome) :
    outcome.replacements.Sorted ∧
      ∀ field value, Fields.get? field outcome.replacements = some value ↔
        ∃ selection ∈ selected, Deviation.Replaces definitions selection field value := by
  have begins : Recorded {} := ⟨List.Pairwise.nil, fun _ _ => rfl⟩
  obtain ⟨after, gathered⟩ :=
    gathered_of_foldlM Recorded Gives
      (fun selection part => Deviation.Replaces definitions selection part.1 part.2)
      begins applied fun state selection next before step => gives_of_select before step
  refine ⟨after.sorted, fun field value => (gathered (field, value)).trans ?_⟩
  simp [Gives]

end DeviationOutcome
end CharacterSheet
