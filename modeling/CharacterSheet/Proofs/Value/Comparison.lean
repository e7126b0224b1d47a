import CharacterSheet.Proofs.Decimal.Range

/-!
# Laws of the loose order

Loose equality is symmetric. It is reflexive except on texts that are read as an infinite amount
or as NaN (`Value.Immeasurable`), and the loose order is antisymmetric except between two texts
whose amounts have no difference (`Value.Incomparable`). So an array is seen to hold a value that
it lists exactly if the value is not immeasurable (`Value.holds_listed_iff`).
-/

namespace CharacterSheet

theorem compareTexts_self (text : Text) : compareTexts text text = .eq :=
  show compare (String.ofList text) (String.ofList text) = .eq from Std.ReflCmp.compare_self

theorem compareTexts_swap (left right : Text) :
    compareTexts right left = (compareTexts left right).swap :=
  show compare (String.ofList right) (String.ofList left) =
      (compare (String.ofList left) (String.ofList right)).swap from
    Std.OrientedCmp.eq_swap

namespace Value

/-- A text that is read as an infinite amount or as NaN. -/
def Immeasurable (value : Value) : Prop :=
  ∃ s x, value = .string s ∧ amountText? s = some x ∧ x.isFinite = false

/-- Two texts that are read as amounts without a difference: one of them as NaN, or both as the
same infinity. -/
def Incomparable (a b : Value) : Prop :=
  ∃ s t x y, a = .string s ∧ b = .string t ∧ amountText? s = some x ∧ amountText? t = some y ∧
    (x - y).isNaN = true

/-- Two texts are ordered the same way from both sides, unless their amounts have no difference. -/
theorem compareStrings_swap_iff (s t : String) :
    compareStrings t s = (compareStrings s t).swap ↔ ¬ Incomparable (.string s) (.string t) := by
  have comparable (none : amountText? s = none ∨ amountText? t = none) :
      ¬ Incomparable (.string s) (.string t) := by
    rintro ⟨_, _, x, y, ⟨⟩, ⟨⟩, first, second, -⟩
    rw [first, second] at none
    rcases none with none | none <;> cases none
  unfold compareStrings
  rcases first : amountText? s with _ | x <;> rcases second : amountText? t with _ | y
  · exact iff_of_true (compareTexts_swap _ _) (comparable (.inl first))
  · exact iff_of_true (compareTexts_swap _ _) (comparable (.inl first))
  · exact iff_of_true (compareTexts_swap _ _) (comparable (.inr second))
  · rw [compareAmounts_swap_iff, ← Bool.not_eq_true]
    refine not_congr ⟨fun none => ⟨s, t, x, y, rfl, rfl, first, second, none⟩, ?_⟩
    rintro ⟨_, _, _, _, ⟨⟩, ⟨⟩, firstToo, secondToo, none⟩
    rw [first] at firstToo
    rw [second] at secondToo
    cases firstToo
    cases secondToo
    exact none

/-- Only texts can be without a difference. -/
theorem comparable_of_not_string
    {a b : Value}
    (other : (∀ s, a ≠ .string s) ∨ ∀ t, b ≠ .string t) :
    ¬ Incomparable a b := by
  rintro ⟨s, t, -, -, first, second, -⟩
  rcases other with other | other
  · exact other s first
  · exact other t second

/-- The loose order is the reverse of that the other way round, exactly if the values are not two
texts without a difference. -/
theorem compareLoosely_swap_iff (a b : Value) :
    compareLoosely b a = (compareLoosely a b).swap ↔ ¬ Incomparable a b := by
  cases a with
  | string s =>
      cases b with
      | string t => exact compareStrings_swap_iff s t
      | number n =>
          exact iff_of_true Ordering.swap_swap.symm (comparable_of_not_string (.inr nofun))
      | null | boolean | array | object =>
          exact iff_of_true (compareTexts_swap _ _) (comparable_of_not_string (.inr nofun))
  | number n =>
      refine iff_of_true ?_ (comparable_of_not_string (.inl nofun))
      cases b with
      | number m =>
          exact (compareAmounts_swap_iff _ _).2
            (isNaN_sub_of_isFinite n.isFinite_toFloat m.isFinite_toFloat)
      | string t => rfl
      | null | boolean | array | object => exact compareTexts_swap _ _
  | boolean first =>
      refine iff_of_true ?_ (comparable_of_not_string (.inl nofun))
      cases b with
      | boolean second => exact (Nat.compare_swap first.toNat second.toNat).symm
      | null | number | string | array | object => exact compareTexts_swap _ _
  | null | array | object =>
      refine iff_of_true ?_ (comparable_of_not_string (.inl nofun))
      cases b <;> exact compareTexts_swap _ _

/-- Loose equality is symmetric, also where the order is not. -/
theorem looselyEqual_comm (a b : Value) : looselyEqual a b = looselyEqual b a := by
  unfold looselyEqual
  by_cases comparable : Incomparable a b
  · obtain ⟨s, t, x, y, rfl, rfl, first, second, none⟩ := comparable
    have amounts : compareLoosely (.string s) (.string t) = compareAmounts x y := by
      rw [compareLoosely, compareStrings, first, second]
    have otherAmounts : compareLoosely (.string t) (.string s) = compareAmounts y x := by
      rw [compareLoosely, compareStrings, first, second]
    rw [amounts, otherAmounts, Bool.eq_iff_iff, beq_iff_eq, beq_iff_eq]
    exact compareAmounts_eq_comm x y
  · rw [(compareLoosely_swap_iff a b).2 comparable]
    cases compareLoosely a b <;> rfl

/-- A value equals itself exactly if it is not immeasurable. -/
theorem looselyEqual_self_iff (value : Value) :
    looselyEqual value value = true ↔ ¬ Immeasurable value := by
  have measurable (other : ∀ s, value ≠ .string s) : ¬ Immeasurable value := by
    rintro ⟨s, -, same, -⟩
    exact other s same
  rw [looselyEqual, beq_iff_eq]
  cases value with
  | string s =>
      change compareStrings s s = .eq ↔ _
      unfold compareStrings
      rcases read : amountText? s with _ | x
      · refine iff_of_true (compareTexts_self _) ?_
        rintro ⟨_, x, ⟨⟩, readToo, -⟩
        rw [read] at readToo
        cases readToo
      · rw [compareAmounts_self_iff, ← Bool.not_eq_false]
        refine not_congr ⟨fun unbounded => ⟨s, x, rfl, read, unbounded⟩, ?_⟩
        rintro ⟨_, _, ⟨⟩, readToo, unbounded⟩
        rw [read] at readToo
        cases readToo
        exact unbounded
  | number n =>
      exact iff_of_true ((compareAmounts_self_iff _).2 n.isFinite_toFloat) (measurable nofun)
  | boolean b =>
      exact iff_of_true (Nat.compare_eq_eq.2 rfl) (measurable nofun)
  | null | array | object =>
      exact iff_of_true (compareTexts_self _) (measurable nofun)

/-- An array is seen to hold what it lists exactly if that is not immeasurable. -/
theorem holds_listed_iff (value : Value) :
    (∀ items, value ∈ items → holds (.array items) value = true) ↔ ¬ Immeasurable value := by
  constructor
  · intro found immeasurable
    have alone := found [value] List.mem_cons_self
    obtain ⟨s, x, rfl, read, unbounded⟩ := id immeasurable
    -- a text has no key, so it can be found only by itself
    have equal : looselyEqual (.string s) (.string s) = true := by
      simpa [holds, matchesNeedle, field?] using alone
    exact (looselyEqual_self_iff _).1 equal immeasurable
  · intro measurable items listed
    have equal := (looselyEqual_self_iff value).2 measurable
    exact List.any_eq_true.2 ⟨value, listed, Bool.or_eq_true_iff.2 (.inl equal)⟩

end Value

end CharacterSheet
