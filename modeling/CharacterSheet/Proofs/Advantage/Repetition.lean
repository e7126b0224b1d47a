import CharacterSheet.Proofs.Advantage.Layers
import CharacterSheet.Proofs.Advantage.Selection
import CharacterSheet.Proofs.Value.Written

/-!
# Deviations that are selected more than once

A player's selection loses its duplicates before it is applied: entries with the same key, and
entries without a key that are written alike. But entries can mean the same definition without
being duplicates, a bare key and an object with that key for instance, or two keys that differ in
letter case. Such a definition is applied once for every spelling, so it counts once exactly if the
player spells it in one way only (`PreparedAdvantage.counts_once_iff`).
-/

namespace CharacterSheet

/-- A result occurs at most once exactly if no two items give it. -/
theorem count_filterMap_le_one_iff
    {α β : Type}
    [DecidableEq β]
    (view : α → Option β)
    (result : β)
    (items : List α) :
    (items.filterMap view).count result ≤ 1 ↔
      items.Pairwise fun one other => view one = some result → view other ≠ some result := by
  induction items with
  | nil => simp
  | cons item items inductionHypothesis =>
      have absent : (items.filterMap view).count result = 0 ↔
          ∀ other ∈ items, view other ≠ some result := by
        simp [List.count_eq_zero]
      rw [List.pairwise_cons, ← inductionHypothesis]
      cases isView : view item with
      | none => simp [List.filterMap_cons_none isView]
      | some first =>
          rw [List.filterMap_cons_some isView]
          by_cases same : first = result
          · subst same
            simp only [List.count_cons_self, forall_const, ← absent]
            omega
          · simp [List.count_cons_of_ne same, same]

namespace Deviation

variable {definitions : Fields} {one other : Value}

/-- A selected entry means the definition of a key. -/
def Means (definitions : Fields) (selection : Value) (key : String) : Prop :=
  (selected? definitions selection).map Prod.fst = some key

theorem selectedKey?_of_keyText?
    {key : String}
    (isKey : one.keyText? = some key) :
    selectedKey? one = some key := by
  obtain ⟨field, found, isText⟩ := Option.bind_eq_some_iff.1 isKey
  cases one with
  | object fields =>
      have present : Fields.get? "key" fields = some field := found
      simp [selectedKey?, present, isText]
  | _ => cases found

theorem selectedKey?_eq_of_writtenAlike
    (alike : Value.WrittenAlike one other) :
    selectedKey? one = selectedKey? other := by
  cases alike with
  | scalar scalar otherScalar => cases scalar <;> cases otherScalar <;> rfl
  | string | array => rfl
  | object same =>
      next fields others =>
        have texts : ((Fields.get? "key" fields).or (Fields.get? "name" fields)).map Value.written =
            ((Fields.get? "key" others).or (Fields.get? "name" others)).map Value.written := by
          rw [Option.map_or, Option.map_or, Value.get?_eq_of_map_entry_eq same,
            Value.get?_eq_of_map_entry_eq same]
        exact Value.bind_string?_eq_of_map_written_eq texts

/-- Duplicates have the same key. -/
theorem selectedKey?_eq_of_duplicate
    (duplicate : Value.Duplicate one other) :
    selectedKey? one = selectedKey? other := by
  unfold Value.Duplicate at duplicate
  split at duplicate
  · next oneKey otherKey =>
      rw [selectedKey?_of_keyText? oneKey, selectedKey?_of_keyText? otherKey, duplicate]
  · exact selectedKey?_eq_of_writtenAlike (Value.writtenAlike_of_compact_eq duplicate)
  · cases duplicate

theorem means_iff_of_duplicate
    (duplicate : Value.Duplicate one other)
    {key : String} :
    Means definitions one key ↔ Means definitions other key := by
  unfold Means selected?
  rw [selectedKey?_eq_of_duplicate duplicate]

theorem Chooses.map_key
    {selected : List Value}
    {chosen : List ChosenDeviation}
    (chooses : Chooses definitions selected chosen) :
    chosen.map ChosenDeviation.key =
      selected.filterMap fun selection => (selected? definitions selection).map Prod.fst := by
  have keys : List.Forall₂ (· = ·) ((meant definitions selected).map Prod.fst)
      (chosen.map ChosenDeviation.key) := by
    rw [List.forall₂_map_left_iff, List.forall₂_map_right_iff]
    exact chooses.imp fun _ _ same => same.1.symm
  rw [List.forall₂_eq_eq_eq] at keys
  rw [← keys, meant, List.map_filterMap]

/-- Of a selection without its duplicates, a definition is chosen at most once exactly if all
entries that mean it are duplicates. -/
theorem Chooses.count_le_one_iff
    {listed : List Value}
    {chosen : List ChosenDeviation}
    (chooses : Chooses definitions (Value.unique listed) chosen)
    (key : String) :
    (chosen.map ChosenDeviation.key).count key ≤ 1 ↔
      ∀ one ∈ listed, ∀ other ∈ listed, Means definitions one key → Means definitions other key →
        Value.Duplicate one other := by
  rw [chooses.map_key, count_filterMap_le_one_iff]
  constructor
  · intro once one oneListed other otherListed oneMeans otherMeans
    obtain ⟨keptOne, isKeptOne, oneDuplicate⟩ := Value.exists_mem_unique oneListed
    obtain ⟨keptOther, isKeptOther, otherDuplicate⟩ := Value.exists_mem_unique otherListed
    have same : keptOne = keptOther := by
      by_contra apart
      have never : (Value.unique listed).Pairwise fun one other =>
          Means definitions one key → ¬ Means definitions other key := once
      have symmetric : Std.Symm fun one other : Value =>
          Means definitions one key → ¬ Means definitions other key :=
        ⟨fun _ _ never otherMeans oneMeans => never oneMeans otherMeans⟩
      have keptOneMeans := (means_iff_of_duplicate oneDuplicate).2 oneMeans
      have keptOtherMeans := (means_iff_of_duplicate otherDuplicate).2 otherMeans
      exact never.forall isKeptOne isKeptOther apart keptOneMeans keptOtherMeans
    subst same
    exact oneDuplicate.symm.trans otherDuplicate
  · intro spelled
    refine (Value.pairwise_unique listed).imp_of_mem fun oneKept otherKept apart oneMeans
      otherMeans => ?_
    exact apart (spelled _ (Value.unique_subset listed oneKept) _
      (Value.unique_subset listed otherKept) oneMeans otherMeans)

end Deviation

namespace PreparedAdvantage

/-- Deviations change an advantage: their magnitudes are added to its level, and their names and
patterns are its own. -/
structure ChangedBy
    (patterns : PatternLibrary)
    (chosen : List ChosenDeviation)
    (prepared : PreparedAdvantage) : Prop where
  adjusted : prepared.adjusted = Rounding.ofWord prepared.purchaseLevel +
    (chosen.map fun choice => choice.deviation.magnitude).foldl (· + ·) 0.0
  applied : prepared.applied = chosen.map ChosenDeviation.name
  substitutions :
    List.Forall₂ (fun rule substitution => Substitution.ofRule patterns rule = .ok substitution)
      (chosen.flatMap fun choice => choice.deviation.substitutions) prepared.substitutions

variable {kind : AdvantageKind} {player : Value} {rules : RuleBook} {patterns : PatternLibrary}
  {prepared : PreparedAdvantage}

/-- An advantage is changed by the deviations of the layered record that its selection chooses. -/
theorem changedBy_of_ofRecord
    (isPrepared : ofRecord kind player rules patterns = .ok prepared) :
    ∃ key base chosen,
      player.textField? "key" = some key ∧ layered kind key player rules = .ok base ∧
      Deviation.Chooses base.deviations base.selected chosen ∧
      prepared.ChangedBy patterns chosen := by
  unfold ofRecord at isPrepared
  split at isPrepared
  · cases isPrepared
  · next key isKey =>
      obtain ⟨base, isBase, isPrepared⟩ := bind_eq_ok_iff.1 isPrepared
      obtain ⟨outcome, isOutcome, isPrepared⟩ := bind_eq_ok_iff.1 isPrepared
      obtain ⟨record, -, isPrepared⟩ := bind_eq_ok_iff.1 isPrepared
      obtain ⟨effect, -, same⟩ := bind_eq_ok_iff.1 isPrepared
      obtain ⟨chosen, chooses, isSum⟩ := DeviationOutcome.isSum_of_applySelected isOutcome
      cases same
      refine ⟨key, base, chosen, isKey, isBase, chooses, ?_, isSum.applied, isSum.substitutions⟩
      exact congrArg (Rounding.ofWord _ + ·) isSum.magnitude

/-- What a player lists as selected deviations: a field of its own, else an array in place of
definitions. -/
def Lists (player : Value) (listed : List Value) : Prop :=
  (player.field? "selectedDeviations").or (player.field? "deviations") = some (.array listed)

theorem selected?_of_lists
    {listed : List Value}
    (lists : Lists player listed)
    (rule : Value) :
    Value.selected? rule player = some (.array (Value.unique listed)) := by
  unfold Lists at lists
  unfold Value.selected?
  rcases Option.or_eq_some_iff.1 lists with own | ⟨none, among⟩
  · rw [own]
    rfl
  · rw [none, among]
    rfl

/-- The deviations that a player lists count once each exactly if each is spelled in one way only:
the advantage is changed by what the list without its duplicates chooses, and a definition is chosen
at most once exactly if all listed entries that mean it are duplicates. -/
theorem counts_once_iff
    {listed : List Value}
    (ordered : player.Ordered)
    (lists : Lists player listed)
    (isPrepared : ofRecord kind player rules patterns = .ok prepared) :
    ∃ key chosen,
      let rule := (rules.record? kind.category key).getD (.object [])
      let definitions := Value.entriesOf (Value.definitions? rule player)
      player.textField? "key" = some key ∧
        Deviation.Chooses definitions (Value.unique listed) chosen ∧
        prepared.ChangedBy patterns chosen ∧
        ∀ definition, (chosen.map ChosenDeviation.key).count definition ≤ 1 ↔
          ∀ one ∈ listed, ∀ other ∈ listed, Deviation.Means definitions one definition →
            Deviation.Means definitions other definition → Value.Duplicate one other := by
  obtain ⟨key, base, chosen, isKey, isBase, chooses, changed⟩ := changedBy_of_ofRecord isPrepared
  have read := AdvantageRecord.readFrom_of_ofValue isBase
  rw [deviations_of_readFrom ordered read, selected_of_readFrom ordered read,
    selected?_of_lists lists] at chooses
  exact ⟨key, chosen, isKey, chooses, changed, chooses.count_le_one_iff⟩

/-- Allies whose rule defines one deviation. -/
def loyalAllies : RuleBook :=
  ⟨[("merits", .object [("allies", .object
    [("deviations", .object [("Loyal", .object [("magMod", .number (.ofWord 1))])]),
      ("effect", .string "Friends.")])])]⟩

/-- Allies at level 3 with the given deviations selected. -/
def alliesWith (listed : List Value) : Value :=
  .object [("deviations", .array listed), ("key", .string "allies"),
    ("value", .number (.ofWord 3))]

/-- The one deviation that is defined counts twice if it is selected in two letter cases. -/
theorem counts_twice_of_letter_case :
    let player : Value := alliesWith [.string "Loyal", .string "loyal"]
    (ofRecord .merit player loyalAllies .linear).toOption.map
        (fun prepared => (prepared.purchaseLevel, prepared.adjusted, prepared.applied)) =
      some (3, 5.0, ["Loyal", "Loyal"]) := by
  decide +kernel

/-- Selected twice by the same key, the deviation counts once. -/
theorem counts_once_of_same_key :
    let listed : List Value :=
      [.object [("key", .string "loyal")],
        .object [("key", .string "loyal"), ("name", .string "Allies")]]
    ∃ prepared,
      (alliesWith listed).Ordered ∧ Lists (alliesWith listed) listed ∧
      ofRecord .merit (alliesWith listed) loyalAllies .linear = .ok prepared ∧
      prepared.applied = ["Loyal"] ∧
      ∃ chosen : List ChosenDeviation,
        prepared.ChangedBy .linear chosen ∧
        ∀ definition, (chosen.map ChosenDeviation.key).count definition ≤ 1 := by
  intro listed
  have ordered : (alliesWith listed).Ordered := by decide +kernel
  have alike : ∀ one ∈ listed, ∀ other ∈ listed, Value.Duplicate one other := by decide +kernel
  have shown : (ofRecord .merit (alliesWith listed) loyalAllies .linear).toOption.map applied =
      some ["Loyal"] := by
    decide +kernel
  rcases isPrepared : ofRecord .merit (alliesWith listed) loyalAllies .linear with fault | prepared
  · rw [isPrepared] at shown
    cases shown
  · rw [isPrepared] at shown
    obtain ⟨_, chosen, _, _, changed, once⟩ := counts_once_iff ordered rfl isPrepared
    refine ⟨prepared, ordered, rfl, rfl, Option.some.inj shown, chosen, changed, fun name => ?_⟩
    exact (once name).2 fun one oneListed other otherListed _ _ =>
      alike one oneListed other otherListed

end PreparedAdvantage
end CharacterSheet
