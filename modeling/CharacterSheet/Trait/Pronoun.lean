import CharacterSheet.Text.Blank
import CharacterSheet.Text.Case

/-!
# Pronouns

Templates are written with male pronouns as keywords; the text shows the pronoun that fits the
character, in the letter case of the keyword.
-/

namespace CharacterSheet

/-- Which pronouns a character takes. -/
inductive Sex
  | male
  | female
  | unspecified
  deriving DecidableEq, Repr

namespace Sex

/-- The sex that a text names, in any letter case. -/
def ofText (text : Text) : Sex :=
  match String.ofList ((Text.trim text).map Char.toLower) with
  | "male" | "m" | "man" => .male
  | "female" | "f" | "woman" => .female
  | _ => .unspecified

/-- The sex of an optional text; without one it is unspecified. -/
def ofString? (s : Option String) : Sex := (s.map fun s => ofText s.toList).getD .unspecified

end Sex

/-- The forms of one pronoun. -/
structure Pronoun where
  male : String
  female : String
  neutral : String
  deriving DecidableEq, Repr

namespace Pronoun

/-- All pronouns; each is called by its male form. -/
def all : List Pronoun :=
  [⟨"he", "she", "they"⟩, ⟨"his", "her", "their"⟩, ⟨"him", "her", "them"⟩,
    ⟨"himself", "herself", "themselves"⟩, ⟨"he's", "she's", "they're"⟩]

/-- The form for a sex. -/
def form (pronoun : Pronoun) : Sex → String
  | .male => pronoun.male
  | .female => pronoun.female
  | .unspecified => pronoun.neutral

/-- The pronoun that a keyword in any letter case calls. -/
def ofKeyword? (keyword : Text) : Option Pronoun :=
  all.find? fun pronoun => Text.sameIgnoringCase pronoun.male.toList keyword

/-- Gives a word the case of a keyword: all capitals if the keyword has several letters and all are
capitals, else a capital first letter if the keyword has one. -/
def inCaseOf (keyword word : Text) : Text :=
  let letters := keyword.filter Char.isAlpha
  if 1 < letters.length && letters.all Char.isUpper then Text.upper word
  else if (keyword.head?.map Char.isUpper).getD false then Text.capitalize word
  else word

/-- The pronoun in place of a keyword. -/
def word (pronoun : Pronoun) (keyword : Text) (sex : Sex) : Text :=
  inCaseOf keyword (pronoun.form sex).toList

end Pronoun

end CharacterSheet
