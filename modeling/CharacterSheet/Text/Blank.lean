import CharacterSheet.Text.Basic

/-!
# Blank characters

Blank characters are those with the Unicode property White_Space. Trimming removes them at both
ends of a text and nothing else.
-/

namespace CharacterSheet

/-- The characters with the property White_Space. -/
def isBlank (c : Char) : Bool :=
  c == ' ' || ('\t' ≤ c && c ≤ '\r') || c == '\u0085' || c == '\u00A0' || c == '\u1680' ||
    ('\u2000' ≤ c && c ≤ '\u200A') || c == '\u2028' || c == '\u2029' || c == '\u202F' ||
    c == '\u205F' || c == '\u3000'

/-- Every blank of the ASCII range is one of the blanks here. -/
theorem isBlank_of_isWhitespace {c : Char} (h : c.isWhitespace = true) : isBlank c = true := by
  simp only [Char.isWhitespace, Bool.or_eq_true, decide_eq_true_eq] at h
  rcases h with ((rfl | rfl) | rfl) | rfl <;> decide

namespace Text

/-- The text from its first character that is not blank. -/
def trimStart (text : Text) : Text := text.dropWhile isBlank

/-- The text up to its last character that is not blank. -/
def trimEnd (text : Text) : Text := (text.reverse.dropWhile isBlank).reverse

/-- The text without the blanks at its two ends. -/
def trim (text : Text) : Text := trimEnd (trimStart text)

@[simp] theorem trim_nil : trim [] = [] := rfl

/-- Whether the text holds nothing but blanks. -/
def isBlank (text : Text) : Bool := text.all CharacterSheet.isBlank

end Text

end CharacterSheet
