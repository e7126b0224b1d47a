import CharacterSheet.Text.Blank

/-!
# Quoted literals

A literal stands between two quotes of the same kind, single or double. A backslash makes a quote or
a backslash part of the text and writes line breaks and tabs; before any other character it stands
for itself.
-/

namespace CharacterSheet

namespace Quoted

/-- Whether a character opens a literal. -/
def isQuote (c : Char) : Bool := c == '\'' || c == '"'

/-- What a backslash and the character after it stand for. -/
def escape (c : Char) : Text :=
  if c = 'n' then ['\n']
  else if c = 't' then ['\t']
  else if c = '\\' then ['\\']
  else if c = '"' then ['"']
  else if c = '\'' then ['\'']
  else ['\\', c]

/-- Reads the inside of a literal up to its closing quote, and gives the rest. -/
def readInner? (quote : Char) : Text → Option (Text × Text)
  | [] => none
  | c :: text =>
    if c = quote then some ([], text)
    else if c = '\\' then
      match text with
      | [] => none
      | d :: rest => (readInner? quote rest).map fun (inner, rest) => (escape d ++ inner, rest)
    else (readInner? quote text).map fun (inner, rest) => (c :: inner, rest)

/-- The text of a literal that, but for blanks around it, is the whole argument. -/
def literal? (argument : Text) : Option Text :=
  match Text.trim argument with
  | [] => none
  | c :: text =>
    if isQuote c then
      match readInner? c text with
      | some (inner, []) => some inner
      | _ => none
    else none

end Quoted

end CharacterSheet
