import CharacterSheet.Decimal.Reading
import CharacterSheet.Markup.Tag

/-!
# Typography

Two hyphens become a dash, and a hyphen that starts a number becomes a minus sign. Tags and comments
are left alone.
-/

namespace CharacterSheet

namespace Markup

/-- The em dash. -/
def dash : Char := '\u2014'

/-- Each two hyphens as a dash. -/
def withDashes : Text → Text
  | '-' :: '-' :: text => dash :: withDashes text
  | c :: text => c :: withDashes text
  | [] => []

/-- Whether a hyphen after the character, or at the start of a text, may start a number. -/
def mayPrecedeNumber (before? : Option Char) : Bool :=
  match before? with
  | none => true
  | some c => [' ', '\t', '\n', '(', '[', '/'].contains c

/-- Whether a digit is next. -/
def startsWithDigit : Text → Bool
  | c :: _ => c.isDigit
  | [] => false

/-- Each hyphen that starts a number as a minus sign. -/
def withMinuses (before? : Option Char) : Text → Text
  | [] => []
  | c :: text =>
    let here := c == '-' && mayPrecedeNumber before? && startsWithDigit text
    (if here then Text.minusSign else c) :: withMinuses (some c) text

/-- Running text with dashes and minus signs. -/
def typeset (text : Text) : Text := withMinuses none (withDashes text)

/-- A piece with dashes and minus signs in its running text. -/
def Piece.typeset : Piece → Piece
  | .text characters => .text (Markup.typeset characters)
  | .mark characters => .mark characters

/-- A document with dashes and minus signs. A document with an open mark stays as it is. -/
def normalize (html : Text) : Text :=
  match pieces html with
  | .ok pieces => pieces.flatMap fun piece => piece.typeset.content
  | .error _ => html

end Markup

end CharacterSheet
