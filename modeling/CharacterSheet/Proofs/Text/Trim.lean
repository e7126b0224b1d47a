import CharacterSheet.Text.Blank
import Mathlib.Data.List.DropRight

/-!
# Trimming

A trimmed text lacks the blanks at its two ends and nothing else (`Text.exists_padding`). So blanks
that are put around a text change nothing about its trimmed form (`Text.trim_padded`).
-/

namespace CharacterSheet
namespace Text

theorem trimStart_cons
    {c : Char}
    (shown : CharacterSheet.isBlank c = false)
    (text : Text) :
    trimStart (c :: text) = c :: text := by
  rw [trimStart, List.dropWhile_cons, shown]
  rfl

theorem trimStart_blanks
    {blanks : Text}
    (blank : ∀ c ∈ blanks, CharacterSheet.isBlank c = true)
    (text : Text) :
    trimStart (blanks ++ text) = trimStart text :=
  List.dropWhile_append_of_pos blank

/-- What is trimmed at the start is blank. -/
theorem exists_blanks (text : Text) :
    ∃ blanks, (∀ c ∈ blanks, CharacterSheet.isBlank c = true) ∧ text = blanks ++ trimStart text :=
  ⟨text.takeWhile CharacterSheet.isBlank, fun _ => List.mem_takeWhile_imp,
    List.takeWhile_append_dropWhile.symm⟩

theorem trimStart_eq_nil_iff {text : Text} :
    trimStart text = [] ↔ ∀ c ∈ text, CharacterSheet.isBlank c = true :=
  List.dropWhile_eq_nil_iff

theorem trimEnd_eq_self_iff {text : Text} :
    trimEnd text = text ↔ ∀ c ∈ text.getLast?, CharacterSheet.isBlank c = false := by
  change text.rdropWhile CharacterSheet.isBlank = text ↔ _
  rw [List.rdropWhile_eq_self_iff]
  cases text using List.reverseRecOn with
  | nil => simp
  | append_singleton text c => simp

theorem trimEnd_blanks
    {blanks : Text}
    (blank : ∀ c ∈ blanks, CharacterSheet.isBlank c = true)
    (text : Text) :
    trimEnd (text ++ blanks) = trimEnd text := by
  have reversed : ∀ c ∈ blanks.reverse, CharacterSheet.isBlank c = true :=
    fun c member => blank c (List.mem_reverse.1 member)
  rw [trimEnd, List.reverse_append, List.dropWhile_append_of_pos reversed, ← trimEnd]

/-- What is trimmed at the end is blank. -/
theorem exists_blanks_behind (text : Text) :
    ∃ blanks, (∀ c ∈ blanks, CharacterSheet.isBlank c = true) ∧ text = trimEnd text ++ blanks :=
  ⟨text.rtakeWhile CharacterSheet.isBlank, fun _ => List.mem_rtakeWhile_imp,
    (List.rdropWhile_append_rtakeWhile).symm⟩

/-- Only behind the last character that is shown blanks are dropped. -/
theorem trimEnd_append_cons
    {c : Char}
    (shown : CharacterSheet.isBlank c = false)
    (left right : Text) :
    trimEnd (left ++ c :: right) = left ++ c :: trimEnd right := by
  change (left ++ c :: right).rdropWhile _ = left ++ c :: right.rdropWhile _
  induction right using List.reverseRecOn with
  | nil => exact List.rdropWhile_concat_neg _ _ _ (by simp [shown])
  | append_singleton right d inductionHypothesis =>
      have parts : left ++ c :: (right ++ [d]) = (left ++ c :: right) ++ [d] := by simp
      by_cases blank : CharacterSheet.isBlank d = true
      · rw [parts, List.rdropWhile_concat_pos _ _ _ blank, inductionHypothesis,
          List.rdropWhile_concat_pos _ _ _ blank]
      · rw [parts, List.rdropWhile_concat_neg _ _ _ blank,
          List.rdropWhile_concat_neg _ _ _ blank, parts]

/-- The blanks at the end of a text are those at the end of its tail. -/
theorem trimEnd_cons (c : Char) (text : Text) :
    trimEnd (c :: text) = trimEnd (c :: trimEnd text) := by
  obtain ⟨blanks, blank, whole⟩ := exists_blanks_behind text
  calc
    trimEnd (c :: text) = trimEnd ((c :: trimEnd text) ++ blanks) := by
      rw [List.cons_append, ← whole]
    _ = trimEnd (c :: trimEnd text) := trimEnd_blanks blank _

/-- A text of which something is shown is not empty when it is trimmed. -/
theorem trim_ne_nil
    {text : Text}
    {c : Char}
    (member : c ∈ text)
    (shown : CharacterSheet.isBlank c = false) :
    trim text ≠ [] := by
  obtain ⟨before, behind, rfl⟩ := List.append_of_mem member
  have parts : trimStart (before ++ c :: behind) =
      before.dropWhile CharacterSheet.isBlank ++ c :: behind := by
    rw [trimStart, List.dropWhile_append]
    split
    · next blank => rw [List.isEmpty_iff.1 blank, List.dropWhile_cons, shown]; rfl
    · rfl
  rw [trim, parts, trimEnd_append_cons shown]
  simp

/-- Around the trimmed text there are only blanks. -/
theorem exists_padding (text : Text) :
    ∃ before behind,
      (∀ c ∈ before, CharacterSheet.isBlank c = true) ∧
      (∀ c ∈ behind, CharacterSheet.isBlank c = true) ∧
      text = before ++ (trim text ++ behind) := by
  obtain ⟨before, blankBefore, start⟩ := exists_blanks text
  obtain ⟨behind, blankBehind, stop⟩ := exists_blanks_behind (trimStart text)
  refine ⟨before, behind, blankBefore, blankBehind, ?_⟩
  rw [trim, ← stop, ← start]

/-- Blanks around a text change nothing about its trimmed form. -/
theorem trim_padded
    {before behind : Text}
    (blankBefore : ∀ c ∈ before, CharacterSheet.isBlank c = true)
    (blankBehind : ∀ c ∈ behind, CharacterSheet.isBlank c = true)
    (text : Text) :
    trim (before ++ (text ++ behind)) = trim text := by
  rw [trim, trimStart_blanks blankBefore, trimStart, List.dropWhile_append]
  split
  · next blank =>
      rw [trim, trimStart, List.isEmpty_iff.1 blank, List.dropWhile_eq_nil_iff.2 blankBehind]
  · exact trimEnd_blanks blankBehind _

theorem trim_trimEnd (text : Text) : trim (trimEnd text) = trim text := by
  obtain ⟨blanks, blank, whole⟩ := exists_blanks_behind text
  calc
    trim (trimEnd text) = trim ([] ++ (trimEnd text ++ blanks)) :=
      (trim_padded (List.forall_mem_nil _) blank _).symm
    _ = trim text := by rw [List.nil_append, ← whole]

/-- A text that is shown at both ends is trimmed. -/
theorem trim_of_shown
    {c d : Char}
    (shown : CharacterSheet.isBlank c = false)
    (otherShown : CharacterSheet.isBlank d = false)
    (text : Text) :
    trim (c :: (text ++ [d])) = c :: (text ++ [d]) := by
  rw [trim, trimStart_cons shown, trimEnd_eq_self_iff]
  intro last isLast
  rw [← List.cons_append, List.getLast?_concat] at isLast
  rwa [Option.mem_some.1 isLast] at otherShown

theorem trim_cons_of_blank
    {c : Char}
    (blank : CharacterSheet.isBlank c = true)
    (text : Text) :
    trim (c :: text) = trim text := by
  have single : ∀ d ∈ [c], CharacterSheet.isBlank d = true := List.forall_mem_singleton.2 blank
  simpa using trim_padded single (List.forall_mem_nil _) text

/-- A text that begins with a character that is shown is trimmed at its end only. -/
theorem trim_cons_of_shown
    {c : Char}
    (shown : CharacterSheet.isBlank c = false)
    (text : Text) :
    trim (c :: text) = c :: trimEnd text := by
  rw [trim, trimStart_cons shown]
  exact trimEnd_append_cons shown [] text

end Text
end CharacterSheet
