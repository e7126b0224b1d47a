import CharacterSheet.Text.Basic

/-!
# Escaped text

Text from templates and data is escaped before it is shown inside markup, so that it can form
neither tags nor notation.
-/

namespace CharacterSheet

namespace Markup

/-- One character as it is written in markup. -/
def escapeChar (c : Char) : Text :=
  if c = '&' then "&amp;".toList
  else if c = '<' then "&lt;".toList
  else if c = '>' then "&gt;".toList
  else if c = '"' then "&quot;".toList
  else if c = '\'' then "&#39;".toList
  else if c = '{' then "&#123;".toList
  else if c = '}' then "&#125;".toList
  else [c]

/-- Text as it is written in markup. -/
def escape (text : Text) : Text := text.flatMap escapeChar

@[simp] theorem escape_nil : escape [] = [] := rfl

@[simp] theorem escape_cons (c : Char) (text : Text) :
    escape (c :: text) = escapeChar c ++ escape text := rfl

@[simp] theorem escape_append (left right : Text) :
    escape (left ++ right) = escape left ++ escape right := by simp [escape]

end Markup

end CharacterSheet
