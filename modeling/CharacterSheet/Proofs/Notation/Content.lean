import CharacterSheet.Notation.Arguments
import CharacterSheet.Proofs.Notation.Call
import CharacterSheet.Proofs.Notation.Grammar

/-!
# Plain contents

A text without braces and commas is one argument, and it stands inside a span as it is
(`Span.Inside.append_left`). The same holds of a text in which another span stands between two
plain texts. A call is read with its content, less the blanks at the end
(`Operation.ofInner_padded_call`).
-/

namespace CharacterSheet

/-- A text has notation exactly if an opener stands in it. -/
theorem hasNotation_iff {text : Text} : hasNotation text = true ↔ spanOpener <:+: text := by
  rw [hasNotation, Text.contains, Option.isSome_iff_ne_none, ne_eq, Text.cut?_eq_none_iff,
    not_not]

namespace Text

/-- A text without braces and commas. -/
def IsPlain (text : Text) : Prop := ∀ c ∈ text, c ≠ '{' ∧ c ≠ '}' ∧ c ≠ ','

namespace IsPlain

variable {text other : Text}

theorem append
    (plain : text.IsPlain)
    (otherPlain : other.IsPlain) :
    IsPlain (text ++ other) :=
  List.forall_mem_append.2 ⟨plain, otherPlain⟩

theorem brace_not_mem (plain : text.IsPlain) : '{' ∉ text :=
  fun member => (plain '{' member).1 rfl

theorem trimEnd (plain : text.IsPlain) : (Text.trimEnd text).IsPlain :=
  fun c member => plain c ((List.rdropWhile_prefix _ text).subset member)

theorem comma_not_mem (plain : text.IsPlain) : ',' ∉ text :=
  fun member => (plain ',' member).2.2 rfl

theorem hasNotation_eq_false (plain : text.IsPlain) : hasNotation text = false := by
  rw [← Bool.not_eq_true, hasNotation_iff]
  exact (Passed.of_not_mem plain.brace_not_mem).clear

end IsPlain

end Text

namespace Arguments

/-- Without separators there is one piece. -/
theorem length_pieces
    {separator : Char}
    {content : Text}
    (absent : separator ∉ content)
    (cuts : Nat)
    (place : Place) :
    (pieces separator cuts place content).length = 1 := by
  have first {c : Char} {pieces : List Text} (single : pieces.length = 1) :
      (consFirst c pieces).length = 1 := by
    obtain ⟨piece, rfl⟩ := List.length_eq_one_iff.1 single
    rfl
  fun_induction pieces separator cuts place content <;> simp_all

/-- A content without commas of which something is shown is one argument. -/
theorem count_eq_one
    {content : Text}
    (absent : ',' ∉ content)
    {c : Char}
    (member : c ∈ content)
    (shown : isBlank c = false) :
    count content = 1 := by
  have proper : (Text.trim content).isEmpty = false :=
    Bool.eq_false_iff.2 fun blank =>
      Text.trim_ne_nil member shown (List.isEmpty_iff.1 blank)
  rw [count, proper]
  change ((pieces ',' content.length .start content).map Text.trim).length = 1
  rw [List.length_map, length_pieces absent]

end Arguments

namespace Span

/-- Plain text may stand in front of anything inside a span. -/
theorem Inside.append_left
    {text inner after : Text}
    (plain : text.IsPlain)
    (inside : Inside inner after) :
    Inside (text ++ inner) after := by
  induction text with
  | nil => exact inside
  | cons c text inductionHypothesis =>
      obtain ⟨⟨notOpener, notCloser, -⟩, rest⟩ := List.forall_mem_cons.1 plain
      refine .plain (fun begins => ?_) (fun begins => ?_) (inductionHypothesis rest)
      · exact notOpener (List.cons_prefix_cons.1 begins).1.symm
      · exact notCloser (List.cons_prefix_cons.1 begins).1.symm

theorem Inside.of_isPlain
    {text after : Text}
    (plain : text.IsPlain) :
    Inside text after := by
  have inside : Inside (text ++ []) after := .append_left plain (.nil after)
  rwa [List.append_nil] at inside

/-- The first span of a text is found behind a text without braces that open. -/
theorem find_of_inside
    {before inner after : Text}
    (absent : '{' ∉ before)
    (inside : Inside inner (spanCloser ++ after)) :
    find (before ++ (spanOpener ++ inner ++ spanCloser ++ after)) =
      .ok (some ⟨before, inner, after⟩) := by
  have cut : Text.cut? spanOpener (spanOpener ++ (inner ++ (spanCloser ++ after))) =
      some ([], inner ++ (spanCloser ++ after)) := by
    simp [spanOpener, Text.cut?, Text.after?]
  have here : find (spanOpener ++ (inner ++ (spanCloser ++ after))) =
      .ok (some ⟨[], inner, after⟩) := by
    rw [find, cut]
    dsimp only
    rw [readInner?_zero_eq_some_iff.2 ⟨rfl, inside⟩]
  rw [List.append_assoc, List.append_assoc, find_append_left (Passed.of_not_mem absent _), here]
  simp [Except.map]

end Span

namespace Operation

/-- A call with plain content is plain. -/
theorem IsName.isPlain_call
    {name content : Text}
    (isName : IsName name)
    (plain : content.IsPlain) :
    Text.IsPlain (name ++ ':' :: content) := by
  have inName : name.IsPlain := by
    intro c member
    refine ⟨?_, ?_, ?_⟩ <;>
      · rintro rfl
        exact absurd (isName.named _ member) (by decide)
  have colon : Text.IsPlain [':'] := by
    simp [Text.IsPlain]
  exact inName.append (colon.append plain)

/-- A call is read with its content, less the blanks at the end. -/
theorem ofInner_padded_call
    {name : Text}
    (isName : IsName name)
    (content : Text) :
    ofInner (name ++ ':' :: content) =
      .ok (.call (String.ofList name) (Text.trimEnd content)) := by
  have unpadded : Text.trimEnd (Text.trimEnd content) = Text.trimEnd content :=
    List.rdropWhile_idempotent _ _
  have same : Text.trim (name ++ ':' :: content) =
      Text.trim (name ++ ':' :: Text.trimEnd content) := by
    rw [isName.trim_call unpadded, Text.trim, isName.trimStart_append,
      Text.trimEnd_append_cons (by decide)]
  rw [← ofInner_call isName unpadded, ofInner, same, ← ofInner]

end Operation
end CharacterSheet
