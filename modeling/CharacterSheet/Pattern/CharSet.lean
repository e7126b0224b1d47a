import CharacterSheet.Text.Case.Groups

/-!
# Sets of characters

The classes of a pattern are sets of characters, given by their membership test. `ignoringCase`
closes a set under letter case; the named classes of ASCII are listed by name.
-/

namespace CharacterSheet

/-- A set of characters. -/
abbrev CharSet := Char → Bool

namespace CharSet

/-- The empty set. -/
def nothing : CharSet := fun _ => false

/-- The set of one character. -/
def single (c : Char) : CharSet := fun d => d == c

/-- The characters from `first` to `last`. -/
def range (first last : Char) : CharSet := fun c => first ≤ c && c ≤ last

/-- The listed characters. -/
def ofText (text : Text) : CharSet := fun c => text.any (· == c)

/-- The characters that are not in the set. -/
def complement (set : CharSet) : CharSet := fun c => !set c

/-- The complement if `negated` says so. -/
def complementIf (negated : Bool) (set : CharSet) : CharSet := fun c => set c != negated

/-- The characters of either set. -/
def union (left right : CharSet) : CharSet := fun c => left c || right c

/-- The characters of both sets. -/
def inter (left right : CharSet) : CharSet := fun c => left c && right c

/-- The characters of the left set that are not in the right one. -/
def diff (left right : CharSet) : CharSet := fun c => left c && !right c

/-- The characters of exactly one of the sets. -/
def symmDiff (left right : CharSet) : CharSet := fun c => left c != right c

/-- The characters that differ from a member in letter case only. -/
def ignoringCase (set : CharSet) : CharSet := fun c => (caseVariants c).any set

/-- The characters that differ from a member in the case of ASCII letters only. -/
def ignoringAsciiCase (set : CharSet) : CharSet := fun c => set c || set c.toLower || set c.toUpper

/-- The characters of ASCII. -/
def ascii : CharSet := fun c => c.toNat < 128

/-- The set within ASCII. -/
def withinAscii (set : CharSet) : CharSet := inter ascii set

/-- The blanks of ASCII. -/
def asciiBlank : CharSet := fun c => c == ' ' || ('\t' ≤ c && c ≤ '\r')

/-- The visible characters of ASCII. -/
def asciiVisible : CharSet := range '!' '\x7e'

/-- The ASCII class of a name. -/
def asciiClass? : String → Option CharSet
  | "alnum" => some Char.isAlphanum
  | "alpha" => some Char.isAlpha
  | "ascii" => some ascii
  | "blank" => some (ofText ['\t', ' '])
  | "cntrl" => some fun c => c.toNat < 32 || c.toNat == 127
  | "digit" => some Char.isDigit
  | "graph" => some asciiVisible
  | "lower" => some Char.isLower
  | "print" => some (range ' ' '\x7e')
  | "punct" => some (diff asciiVisible Char.isAlphanum)
  | "space" => some asciiBlank
  | "upper" => some Char.isUpper
  | "word" => some fun c => c.isAlphanum || c == '_'
  | "xdigit" => some fun c => c.isDigit || ('a' ≤ c && c ≤ 'f') || ('A' ≤ c && c ≤ 'F')
  | _ => none

theorem complement_complement (set : CharSet) : complement (complement set) = set := by
  funext c
  simp [complement]

theorem complementIf_true (set : CharSet) : complementIf true set = complement set := by
  funext c
  cases h : set c <;> simp [complementIf, complement, h]

end CharSet

end CharacterSheet
