import CharacterSheet.Value.Basic

/-!
# The compact text of a value

Values are written in JSON without any blanks. In strings only the quote, the backslash and control
characters are escaped.
-/

namespace CharacterSheet

/-- A digit of base sixteen in lower case. -/
def hexDigit (n : Nat) : Char := Nat.digitChar (n % 16)

/-- One character inside a written string. -/
def escapedChar (c : Char) : Text :=
  if c = '"' then ['\\', '"']
  else if c = '\\' then ['\\', '\\']
  else if c = '\n' then ['\\', 'n']
  else if c = '\r' then ['\\', 'r']
  else if c = '\t' then ['\\', 't']
  else if c = '\x08' then ['\\', 'b']
  else if c = '\x0c' then ['\\', 'f']
  else if c.toNat < 32 then ['\\', 'u', '0', '0', hexDigit (c.toNat / 16), hexDigit c.toNat]
  else [c]

/-- A string between quotes. -/
def writtenString (s : String) : Text := '"' :: s.toList.flatMap escapedChar ++ ['"']

namespace Value

mutual

/-- The compact text of a value. -/
def written : Value → Text
  | .null => "null".toList
  | .boolean true => "true".toList
  | .boolean false => "false".toList
  | .number n => n.text
  | .string s => writtenString s
  | .array items => '[' :: writtenItems items ++ [']']
  | .object fields => '{' :: writtenFields fields ++ ['}']

/-- Elements with commas between them. -/
def writtenItems : List Value → Text
  | [] => []
  | [item] => written item
  | item :: items => written item ++ ',' :: writtenItems items

/-- Fields with commas between them. -/
def writtenFields : List (String × Value) → Text
  | [] => []
  | [(key, value)] => writtenString key ++ ':' :: written value
  | (key, value) :: fields =>
    writtenString key ++ ':' :: written value ++ ',' :: writtenFields fields

end

/-- The compact text of a value as a string. -/
def compact (value : Value) : String := String.ofList value.written

end Value

end CharacterSheet
