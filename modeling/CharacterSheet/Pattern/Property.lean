import CharacterSheet.Pattern.CharSet

/-!
# Properties of characters

Patterns name sets of characters by their Unicode properties: general categories and groups of
them, scripts, and a few further properties. Letter case, blanks, hyphens, underscores and a leading
"is" do not count in names.
-/

namespace CharacterSheet

namespace CharProperty

/-- A property name in the form in which names are compared. -/
def nameKey (name : Text) : String :=
  let letters :=
    (name.filter fun c => c.toNat < 128 && c != ' ' && c != '-' && c != '_').map Char.toLower
  match letters with
  | 'i' :: 's' :: rest => if rest = ['c'] then "isc" else String.ofList rest
  | _ => String.ofList letters

/-- The characters of the categories. -/
def inCategories (categories : List Category) : CharSet := fun c => categories.contains (category c)

/-- The general categories that a name stands for. -/
def categories? : String → Option (List Category)
  | "lu" | "uppercaseletter" => some [.lu]
  | "ll" | "lowercaseletter" => some [.ll]
  | "lt" | "titlecaseletter" => some [.lt]
  | "lc" | "casedletter" => some [.lu, .ll, .lt]
  | "lm" | "modifierletter" => some [.lm]
  | "lo" | "otherletter" => some [.lo]
  | "l" | "letter" => some [.lu, .ll, .lt, .lm, .lo]
  | "mn" | "nonspacingmark" => some [.mn]
  | "mc" | "spacingmark" => some [.mc]
  | "me" | "enclosingmark" => some [.me]
  | "m" | "mark" | "combiningmark" => some [.mn, .mc, .me]
  | "nd" | "decimalnumber" | "digit" => some [.nd]
  | "nl" | "letternumber" => some [.nl]
  | "no" | "othernumber" => some [.no]
  | "n" | "number" => some [.nd, .nl, .no]
  | "pc" | "connectorpunctuation" => some [.pc]
  | "pd" | "dashpunctuation" => some [.pd]
  | "ps" | "openpunctuation" => some [.ps]
  | "pe" | "closepunctuation" => some [.pe]
  | "pi" | "initialpunctuation" => some [.pi]
  | "pf" | "finalpunctuation" => some [.pf]
  | "po" | "otherpunctuation" => some [.po]
  | "p" | "punctuation" | "punct" => some [.pc, .pd, .ps, .pe, .pi, .pf, .po]
  | "sm" | "mathsymbol" => some [.sm]
  | "sc" | "currencysymbol" => some [.sc]
  | "sk" | "modifiersymbol" => some [.sk]
  | "so" | "othersymbol" => some [.so]
  | "s" | "symbol" => some [.sm, .sc, .sk, .so]
  | "zs" | "spaceseparator" => some [.zs]
  | "zl" | "lineseparator" => some [.zl]
  | "zp" | "paragraphseparator" => some [.zp]
  | "z" | "separator" => some [.zs, .zl, .zp]
  | "cc" | "control" | "cntrl" => some [.cc]
  | "cf" | "format" => some [.cf]
  | "co" | "privateuse" => some [.co]
  | "cn" | "unassigned" => some [.cn]
  | "c" | "other" => some [.cc, .cf, .co, .cn, .cs]
  | _ => none

/-- The set of a general category, of all characters, or of ASCII. -/
def generalCategory? (key : String) : Option CharSet :=
  match key with
  | "any" => some fun _ => true
  | "assigned" => some fun c => category c != .cn
  | "ascii" => some CharSet.ascii
  | _ => (categories? key).map inCategories

/-- The set of a property that holds or does not hold. -/
def truthProperty? : String → Option CharSet
  | "alphabetic" | "alpha" => some isAlphabetic
  | "uppercase" | "upper" => some isUppercase
  | "lowercase" | "lower" => some isLowercase
  | "whitespace" | "wspace" | "space" => some isBlank
  | "cased" => some isCased
  | "caseignorable" | "ci" => some isCaseIgnorable
  | "asciihexdigit" | "ahex" => CharSet.asciiClass? "xdigit"
  | _ => none

/-- The short names of scripts. -/
def scriptAliases : List (String × String) :=
  [("latn", "latin"), ("grek", "greek"), ("cyrl", "cyrillic"), ("armn", "armenian"),
    ("hebr", "hebrew"), ("arab", "arabic"), ("deva", "devanagari"), ("hang", "hangul"),
    ("hira", "hiragana"), ("kana", "katakana"), ("hani", "han")]

/-- The set of a script. -/
def script? (key : String) : Option CharSet :=
  (CharacterRanges.scripts.lookup ((scriptAliases.lookup key).getD key)).map fun ranges c =>
    inRanges c ranges

/-- The set of a property by its name alone. -/
def ofName? (name : Text) : Option CharSet :=
  let key := nameKey name
  let truth? := if ["cf", "sc", "lc"].contains key then none else truthProperty? key
  truth?.or ((generalCategory? key).or (script? key))

/-- The set of the characters whose property has the value. -/
def ofNameAndValue? (name value : Text) : Option CharSet :=
  let key := nameKey value
  match nameKey name with
  | "gc" | "generalcategory" => generalCategory? key
  | "sc" | "script" => script? key
  | _ => none

end CharProperty

end CharacterSheet
