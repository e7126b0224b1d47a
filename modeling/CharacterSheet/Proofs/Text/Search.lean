import CharacterSheet.Text.Basic

/-!
# First occurrences

Cutting at a mark finds its first occurrence. The main law, `cut?_eq_some_iff`,
says so without the search: the mark stands where the cut is, and nowhere in what
comes before it together with the beginning of the mark. So a cut does not depend
on what follows it, and it moves along with a text that is put in front, as long
as the mark does not arise across the seam. A mark of one character, a separator, is
simply absent before the cut (`cutAt?_eq_some_iff`).
-/

namespace CharacterSheet
namespace Text

theorem after?_eq_none_iff {start text : Text} :
    after? start text = none ↔ ¬ start <+: text := by
  constructor
  · rintro missing ⟨rest, same⟩
    rw [after?_eq_some.2 same.symm] at missing
    cases missing
  · intro absent
    cases found : after? start text with
    | none => rfl
    | some rest => exact absurd ⟨rest, (after?_eq_some.1 found).symm⟩ absent

theorem cut?_eq_none_iff {mark text : Text} :
    cut? mark text = none ↔ ¬ mark <:+: text := by
  induction text with
  | nil =>
      rw [cut?, Option.map_eq_none_iff, after?_eq_none_iff, List.infix_nil, List.prefix_nil]
  | cons c text inductionHypothesis =>
      rw [List.infix_cons_iff, not_or, ← inductionHypothesis, ← after?_eq_none_iff]
      simp only [cut?]
      cases after? mark (c :: text) <;> simp

/-- A character that a mark does not have keeps the two sides apart. -/
theorem infix_append_cons_iff
    {mark left right : Text}
    {c : Char}
    (absent : c ∉ mark) :
    mark <:+: left ++ c :: right ↔ mark <:+: left ∨ mark <:+: right := by
  constructor
  · intro occurs
    rcases List.infix_append_iff_ne_nil.1 occurs with
      inLeft | inRight | ⟨first, second, -, proper, whole, -, starts⟩
    · exact Or.inl inLeft
    · rcases List.infix_cons_iff.1 inRight with starts | inRight
      · cases mark with
        | nil => exact Or.inl (List.nil_infix)
        | cons d mark =>
            obtain ⟨rfl, -⟩ := List.cons_prefix_cons.1 starts
            exact absurd List.mem_cons_self absent
      · exact Or.inr inRight
    · cases second with
      | nil => exact absurd rfl proper
      | cons d second =>
          obtain ⟨rfl, -⟩ := List.cons_prefix_cons.1 starts
          exact absurd (by simp [whole]) absent
  · rintro (inLeft | inRight)
    · exact inLeft.trans (List.prefix_append left _).isInfix
    · exact inRight.trans
        ((List.suffix_cons c right).trans (List.suffix_append left _)).isInfix

theorem not_infix_dropLast {mark : Text} (proper : mark ≠ []) :
    ¬ mark <:+: mark.dropLast := by
  intro occurs
  have shorter := occurs.length_le
  have positive := List.length_pos_iff.2 proper
  rw [List.length_dropLast] at shorter
  omega

/-- Before a cut the mark does not even begin to be complete. -/
theorem not_infix_of_cut?
    {mark text before rest : Text}
    (proper : mark ≠ [])
    (cut : cut? mark text = some (before, rest)) :
    ¬ mark <:+: before ++ mark.dropLast := by
  induction text generalizing before with
  | nil =>
      obtain ⟨left, found, same⟩ := Option.map_eq_some_iff.1 cut
      cases same
      exact not_infix_dropLast proper
  | cons c text inductionHypothesis =>
      unfold cut? at cut
      cases found : after? mark (c :: text) with
      | some left =>
          rw [found] at cut
          cases cut
          exact not_infix_dropLast proper
      | none =>
          rw [found] at cut
          obtain ⟨⟨head, tail⟩, inner, same⟩ := Option.map_eq_some_iff.1 cut
          cases same
          rw [List.cons_append, List.infix_cons_iff]
          rintro (start | occurs)
          · have whole : text = head ++ mark ++ rest := cut?_eq_some inner
            have shown : c :: (head ++ mark.dropLast) <+: c :: text := by
              rw [whole, List.cons_prefix_cons]
              exact ⟨rfl, ((List.prefix_append_right_inj head).2
                (List.dropLast_prefix mark)).trans (List.prefix_append _ _)⟩
            exact after?_eq_none_iff.1 found (start.trans shown)
          · exact inductionHypothesis inner occurs

/-- Of two places where a mark stands, the earlier one lies before the later one
and the beginning of its mark. -/
theorem occurs_before
    {mark early late earlyRest lateRest : Text}
    (earlier : early.length < late.length)
    (same : early ++ mark ++ earlyRest = late ++ mark ++ lateRest) :
    mark <:+: late ++ mark.dropLast := by
  have lateStart : late ++ mark.dropLast <+: late ++ mark ++ lateRest :=
    ((List.prefix_append_right_inj late).2
      (List.dropLast_prefix mark)).trans (List.prefix_append _ _)
  have short : early ++ mark <+: late ++ mark.dropLast := by
    refine List.prefix_of_prefix_length_le ⟨earlyRest, same⟩ lateStart ?_
    simp only [List.length_append, List.length_dropLast]
    omega
  exact (List.suffix_append early mark).isInfix.trans short.isInfix

/-- A cut is at the first occurrence of the mark. -/
theorem cut?_eq_some_iff
    {mark text before rest : Text}
    (proper : mark ≠ []) :
    cut? mark text = some (before, rest) ↔
      text = before ++ mark ++ rest ∧ ¬ mark <:+: before ++ mark.dropLast := by
  constructor
  · intro cut
    exact ⟨cut?_eq_some cut, not_infix_of_cut? proper cut⟩
  · rintro ⟨whole, first⟩
    cases cut : cut? mark text with
    | none =>
        have occurs : mark <:+: text := ⟨before, rest, whole.symm⟩
        exact absurd occurs (cut?_eq_none_iff.1 cut)
    | some parts =>
        obtain ⟨head, tail⟩ := parts
        have other := cut?_eq_some cut
        have otherFirst := not_infix_of_cut? proper cut
        rw [whole] at other
        have notLater : ¬ head.length < before.length := by
          intro earlier
          exact first (occurs_before earlier other.symm)
        have notEarlier : ¬ before.length < head.length := by
          intro later
          exact otherFirst (occurs_before later other)
        rw [List.append_assoc, List.append_assoc] at other
        obtain ⟨rfl, tails⟩ := List.append_inj other (by omega)
        rw [List.append_cancel_left tails]

/-- What follows a text does not move a cut. -/
theorem cut?_append_right
    {mark text before rest : Text}
    (proper : mark ≠ [])
    (cut : cut? mark text = some (before, rest))
    (more : Text) :
    cut? mark (text ++ more) = some (before, rest ++ more) := by
  obtain ⟨whole, first⟩ := (cut?_eq_some_iff proper).1 cut
  refine (cut?_eq_some_iff proper).2 ⟨?_, first⟩
  rw [whole]
  simp only [List.append_assoc]

/-- Where a mark occurs only once there is one text that it leads. -/
theorem eq_drop_of_occurs_once
    {mark text left right : Text}
    {place : Nat}
    (proper : mark ≠ [])
    (once : ∀ other < text.length, mark <+: text.drop other → other = place)
    (whole : text = left ++ (mark ++ right)) :
    text.drop place = mark ++ right := by
  have behind : text.drop left.length = mark ++ right := by
    rw [whole, List.drop_left]
  have within : left.length < text.length := by
    have positive := List.length_pos_iff.2 proper
    rw [whole, List.length_append, List.length_append]
    omega
  rwa [← once left.length within (behind ▸ List.prefix_append mark right)]

/-- A separator parts a text where it first stands. -/
theorem cutAt?_append
    {separator : Char}
    {left : Text}
    (absent : separator ∉ left)
    (right : Text) :
    cutAt? separator (left ++ separator :: right) = some (left, right) := by
  induction left with
  | nil => simp [cutAt?]
  | cons c left inductionHypothesis =>
      rw [List.mem_cons, not_or] at absent
      have other : c ≠ separator := Ne.symm absent.1
      simp [cutAt?, other, inductionHypothesis absent.2]

/-- A text is cut where a separator first stands. -/
theorem cutAt?_eq_some_iff
    {separator : Char}
    {text left right : Text} :
    cutAt? separator text = some (left, right) ↔
      separator ∉ left ∧ text = left ++ separator :: right := by
  constructor
  · intro cut
    induction text generalizing left with
    | nil => cases cut
    | cons c rest inductionHypothesis =>
        rw [cutAt?] at cut
        split at cut
        · next first =>
            cases cut
            exact ⟨List.not_mem_nil, congrArg (· :: right) first⟩
        · next other =>
            obtain ⟨⟨before, behind⟩, later, same⟩ := Option.map_eq_some_iff.1 cut
            cases same
            obtain ⟨absent, rfl⟩ := inductionHypothesis later
            exact ⟨List.not_mem_cons_of_ne_of_not_mem (Ne.symm other) absent, rfl⟩
  · rintro ⟨absent, rfl⟩
    exact cutAt?_append absent right

end Text
end CharacterSheet
