import CharacterSheet.Text.Blank
import CharacterSheet.Text.Category.Ranges
import CharacterSheet.Text.Category.Runs

/-!
# General categories and character classes

Every code point has one general category. The classes that letter case and patterns need (letters
with case, characters that case ignores, word characters, digits) are unions of categories with a
few listed additions.
-/

namespace CharacterSheet

/-- The general categories, under their two-letter names. -/
inductive Category
  | lu | ll | lt | lm | lo
  | mn | mc | me
  | nd | nl | no
  | pc | pd | ps | pe | pi | pf | po
  | sm | sc | sk | so
  | zs | zl | zp
  | cc | cf | cs | co | cn
  deriving DecidableEq, Repr

namespace Category

/-- The category of a two-letter name. -/
def ofName? : String → Option Category
  | "Lu" => some lu | "Ll" => some ll | "Lt" => some lt | "Lm" => some lm | "Lo" => some lo
  | "Mn" => some mn | "Mc" => some mc | "Me" => some me
  | "Nd" => some nd | "Nl" => some nl | "No" => some no
  | "Pc" => some pc | "Pd" => some pd | "Ps" => some ps | "Pe" => some pe | "Pi" => some pi
  | "Pf" => some pf | "Po" => some po
  | "Sm" => some sm | "Sc" => some sc | "Sk" => some sk | "So" => some so
  | "Zs" => some zs | "Zl" => some zl | "Zp" => some zp
  | "Cc" => some cc | "Cf" => some cf | "Cs" => some cs | "Co" => some co | "Cn" => some cn
  | _ => none

/-- Reads one run: two letters, then the count of code points. -/
def readRun? (word : String) : Option (Category × Nat) := do
  let letters := word.toList
  let category ← ofName? (String.ofList (letters.take 2))
  let count ← (String.ofList (letters.drop 2)).toNat?
  pure (category, count)

/-- All runs in code point order. -/
def runs : List (Category × Nat) :=
  categoryRuns.flatMap fun line =>
    (Text.split ' ' line.toList).filterMap fun word => readRun? (String.ofList word)

/-- The category that `code` falls into when the listed runs start at zero. -/
def find (code : Nat) : List (Category × Nat) → Category
  | [] => cn
  | (category, count) :: rest => if code < count then category else find (code - count) rest

end Category

/-- The general category of a character. -/
def category (c : Char) : Category := Category.find c.toNat Category.runs

/-- Whether a character is in one of the listed inclusive ranges. -/
def inRanges (c : Char) (ranges : List (Nat × Nat)) : Bool :=
  ranges.any fun (first, last) => first ≤ c.toNat && c.toNat ≤ last

/-- The circled and squared letters, which are symbols by category. -/
def symbolLetters : List (Nat × Nat) :=
  [(0x24B6, 0x24E9), (0x1F130, 0x1F149), (0x1F150, 0x1F169), (0x1F170, 0x1F189)]

/-- Decimal digits of every script. -/
def isDecimalDigit (c : Char) : Bool :=
  if c.toNat < 128 then c.isDigit else category c == .nd

/-- Letters, marks, decimal digits, connectors and joiners of every script. -/
def isWordChar (c : Char) : Bool :=
  if c.toNat < 128 then c.isAlphanum || c == '_'
  else
    [Category.lu, .ll, .lt, .lm, .lo, .nl, .mn, .mc, .me, .nd, .pc].contains (category c) ||
      c == '\u200C' || c == '\u200D' || inRanges c symbolLetters

/-- Letters, and the marks and symbols that count as letters. -/
def isAlphabetic (c : Char) : Bool :=
  if c.toNat < 128 then c.isAlpha
  else
    [Category.lu, .ll, .lt, .lm, .lo, .nl].contains (category c) ||
      inRanges c CharacterRanges.otherAlphabetic

/-- Characters of lower case. -/
def isLowercase (c : Char) : Bool :=
  if c.toNat < 128 then c.isLower
  else category c == .ll || inRanges c CharacterRanges.otherLowercase

/-- Characters of upper case. -/
def isUppercase (c : Char) : Bool :=
  if c.toNat < 128 then c.isUpper
  else category c == .lu || inRanges c CharacterRanges.otherUppercase

/-- Characters of lower, upper or title case. -/
def isCased (c : Char) : Bool := isLowercase c || isUppercase c || category c == .lt

/-- Marks, signs and punctuation that the case of a word looks through. -/
def isCaseIgnorable (c : Char) : Bool :=
  if c.toNat < 128 then ['\'', '.', ':', '^', '\x60'].contains c
  else
    [Category.mn, .me, .cf, .lm, .sk].contains (category c) ||
      [0x00B7, 0x0387, 0x055F, 0x05F4, 0x2018, 0x2019, 0x2024, 0x2027, 0xFE13, 0xFE52, 0xFE55,
        0xFF07, 0xFF0E, 0xFF1A].contains c.toNat

end CharacterSheet
