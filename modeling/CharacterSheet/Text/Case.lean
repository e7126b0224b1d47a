import CharacterSheet.Text.Category
import CharacterSheet.Text.Case.Runs

/-!
# Letter case

Lower and upper case of whole texts, by the full mappings of Unicode: a letter may become several
characters, and a capital sigma at the end of a word becomes the final sigma.
-/

namespace CharacterSheet

namespace CaseRun

/-- The code point that the first covering run maps `code` to, else `code` itself. -/
def mapped (runs : List CaseRun) (c : Char) : Char :=
  ((runs.findSome? fun run => run.map? c.toNat).map Char.ofNat).getD c

end CaseRun

/-- The lower case of a character where it is one character. -/
def lowerChar (c : Char) : Char :=
  if c.toNat < 128 then c.toLower else CaseRun.mapped CaseRun.lower c

/-- The upper case of a character where it is one character. -/
def upperChar (c : Char) : Char :=
  if c.toNat < 128 then c.toUpper else CaseRun.mapped CaseRun.upper c

namespace Text

/-- The lower case of one character: a capital I with a dot keeps the dot as a mark. -/
def lowerOne (c : Char) : Text := if c == '\u0130' then ['i', '\u0307'] else [lowerChar c]

/-- The upper case of one character. -/
def upperOne (c : Char) : Text :=
  if c.toNat < 128 then [c.toUpper]
  else
    match CaseRun.longUpper.lookup c.toNat with
    | some codes => codes.map Char.ofNat
    | none => [upperChar c]

/-- Whether the text starts with a cased letter, looking through what case ignores. -/
def leadsToCased (text : Text) : Bool :=
  match text.dropWhile isCaseIgnorable with
  | [] => false
  | c :: _ => isCased c

/-- Lower case of `text`, which follows the characters of `before`, nearest first. -/
def lowerAfter (before : Text) : Text → Text
  | [] => []
  | c :: text =>
    let here :=
      if c == '\u03A3' then
        if leadsToCased before && !leadsToCased text then ['\u03C2'] else ['\u03C3']
      else lowerOne c
    here ++ lowerAfter (c :: before) text

/-- The whole text in lower case. -/
def lower (text : Text) : Text := lowerAfter [] text

/-- The whole text in upper case. -/
def upper (text : Text) : Text := text.flatMap upperOne

/-- The text with its first character in upper case. -/
def capitalize : Text → Text
  | [] => []
  | c :: text => upperOne c ++ text

end Text

end CharacterSheet
