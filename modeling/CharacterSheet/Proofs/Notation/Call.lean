import CharacterSheet.Notation.Operation
import CharacterSheet.Proofs.Text.Search
import CharacterSheet.Proofs.Text.Trim

/-!
# Calls of handlers

A call is written as the name of a handler, a colon and the content. The first colon
parts the two, and no pronoun or keyword has a colon. So every content is read back as
it was written, except for blanks at its end, which belong to the span
(`Operation.ofInner_call`).
-/

namespace CharacterSheet

namespace Operation

/-- A text that can be the name of a handler. -/
structure IsName (name : Text) : Prop where
  proper : name ≠ []
  named : ∀ c ∈ name, isNameChar c = true

theorem isBlank_of_isNameChar
    {c : Char}
    (named : isNameChar c = true) :
    isBlank c = false := by
  unfold isNameChar Char.isAlphanum Char.isAlpha Char.isUpper Char.isLower Char.isDigit at named
  unfold isBlank
  simp [UInt32.le_iff_toNat_le, Char.le_def, ← Char.toNat_inj] at named ⊢
  omega

namespace IsName

variable {name : Text}

theorem colon_not_mem (isName : IsName name) : ':' ∉ name :=
  fun member => absurd (isName.named ':' member) (by decide)

theorem trimStart_append
    (isName : IsName name)
    (text : Text) :
    Text.trimStart (name ++ text) = name ++ text := by
  cases name with
  | nil => exact absurd rfl isName.proper
  | cons c name =>
      exact Text.trimStart_cons (isBlank_of_isNameChar (isName.named c List.mem_cons_self)) _

theorem trim_eq (isName : IsName name) : Text.trim name = name := by
  have start := isName.trimStart_append []
  rw [List.append_nil] at start
  rw [Text.trim, start, Text.trimEnd_eq_self_iff]
  exact fun c last => isBlank_of_isNameChar (isName.named c (List.mem_of_getLast? last))

theorem trim_call
    (isName : IsName name)
    {content : Text}
    (unpadded : Text.trimEnd content = content) :
    Text.trim (name ++ ':' :: content) = name ++ ':' :: content := by
  rw [Text.trim, isName.trimStart_append, Text.trimEnd_eq_self_iff]
  rw [Text.trimEnd_eq_self_iff] at unpadded
  intro c last
  cases content with
  | nil =>
      obtain rfl : ':' = c := by simpa using last
      decide
  | cons d content => exact unpadded c (by simpa using last)

end IsName

/-- No pronoun has a colon. -/
theorem ofKeyword?_of_colon
    {text : Text}
    (colon : ':' ∈ text) :
    Pronoun.ofKeyword? text = none := by
  rw [Pronoun.ofKeyword?, List.find?_eq_none]
  intro pronoun isPronoun same
  rw [Text.sameIgnoringCase, beq_iff_eq] at same
  have inPronoun : ':' ∈ pronoun.male.toList.map Char.toLower := by
    rw [same]
    exact List.mem_map_of_mem colon
  have inNone : ∀ pronoun ∈ Pronoun.all, ':' ∉ pronoun.male.toList.map Char.toLower := by decide
  exact inNone pronoun isPronoun inPronoun

/-- A call is read as it was written. -/
theorem ofInner_call
    {name content : Text}
    (isName : IsName name)
    (unpadded : Text.trimEnd content = content) :
    ofInner (name ++ ':' :: content) = .ok (.call (String.ofList name) content) := by
  have colon : ':' ∈ name ++ ':' :: content := by simp
  have noKeyword :
      keywords.contains (String.ofList ((name ++ ':' :: content).map Char.toUpper)) = false := by
    rw [Bool.eq_false_iff, ne_eq, List.contains_iff_mem]
    intro isKeyword
    have inNone : ∀ keyword ∈ keywords, ':' ∉ keyword.toList := by decide
    apply inNone _ isKeyword
    rw [String.toList_ofList]
    exact List.mem_map_of_mem colon
  have split : splitHandler? (name ++ ':' :: content) = some (name, content) := by
    simpa [splitHandler?, Text.cutAt?_append isName.colon_not_mem, isName.trim_eq,
      isName.proper] using isName.named
  unfold ofInner
  simp only [isName.trim_call unpadded, ofKeyword?_of_colon colon, noKeyword, split]
  rfl

end Operation
end CharacterSheet
