import CharacterSheet.Value.Basic
import CharacterSheet.Value.Literal

/-!
# Reading values

Values are read from JSON. Of two fields with one key the later counts, and values may be nested up
to `depthLimit` deep. A reader gets the text and returns what it read with the rest of the text.
-/

namespace CharacterSheet

namespace Value

/-- Arrays and objects may be nested less deep than this. -/
def depthLimit : Nat := 128

/-- Skips the four blanks that may stand between tokens. -/
def skipBlanks (text : Text) : Text :=
  text.dropWhile fun c => c == ' ' || c == '\n' || c == '\t' || c == '\r'

/-- The value of a digit of base sixteen. -/
def hexValue? (c : Char) : Option Nat :=
  if c.isDigit then some (c.toNat - '0'.toNat)
  else if 'a' ≤ c && c ≤ 'f' then some (c.toNat - 'a'.toNat + 10)
  else if 'A' ≤ c && c ≤ 'F' then some (c.toNat - 'A'.toNat + 10)
  else none

/-- Four digits of base sixteen, and the rest. -/
def readHex? : Text → Option (Nat × Text)
  | a :: b :: c :: d :: rest => do
    let a ← hexValue? a
    let b ← hexValue? b
    let c ← hexValue? c
    let d ← hexValue? d
    pure (((a * 16 + b) * 16 + c) * 16 + d, rest)
  | _ => none

/-- The character of an escape of four digits; characters beyond those take two escapes. -/
def readCodeUnits? (text : Text) : Option (Char × Text) := do
  let (first, text) ← readHex? text
  if first < 0xD800 || 0xE000 ≤ first then pure (Char.ofNat first, text)
  else if 0xDC00 ≤ first then none
  else
    match text with
    | '\\' :: 'u' :: text =>
      let (second, text) ← readHex? text
      if second < 0xDC00 || 0xE000 ≤ second then none
      else pure (Char.ofNat (0x10000 + (first - 0xD800) * 0x400 + (second - 0xDC00)), text)
    | _ => none

/-- The character after a backslash, and the rest. -/
def readEscape? : Text → Option (Char × Text)
  | '"' :: text => some ('"', text)
  | '\\' :: text => some ('\\', text)
  | '/' :: text => some ('/', text)
  | 'b' :: text => some ('\x08', text)
  | 'f' :: text => some ('\x0c', text)
  | 'n' :: text => some ('\n', text)
  | 'r' :: text => some ('\r', text)
  | 't' :: text => some ('\t', text)
  | 'u' :: text => readCodeUnits? text
  | _ => none

/-- Reads a string after its opening quote; `done` holds what was read, last first. -/
def readString? (done : Text) : (fuel : Nat) → Text → Option (String × Text)
  | 0, _ => none
  | _ + 1, [] => none
  | fuel + 1, c :: text =>
    if c == '"' then some (String.ofList done.reverse, text)
    else if c == '\\' then do
      let (read, text) ← readEscape? text
      readString? (read :: done) fuel text
    else if c.toNat < 32 then none
    else readString? (c :: done) fuel text

mutual

/-- Reads one value; `depth` says how many arrays and objects may still be opened. -/
def read? (depth : Nat) : (fuel : Nat) → Text → Option (Value × Text)
  | 0, _ => none
  | fuel + 1, text =>
    match skipBlanks text with
    | '"' :: text => (readString? [] (text.length + 1) text).map fun (s, rest) => (.string s, rest)
    | '[' :: text =>
      if depth ≤ 1 then none
      else
        match skipBlanks text with
        | ']' :: rest => some (.array [], rest)
        | text => (readItems? (depth - 1) fuel text).map fun (items, rest) => (.array items, rest)
    | '{' :: text =>
      if depth ≤ 1 then none
      else
        match skipBlanks text with
        | '}' :: rest => some (.object [], rest)
        | text =>
          (readFields? (depth - 1) fuel text).map fun (fields, rest) => (ofFields fields, rest)
    | 'n' :: 'u' :: 'l' :: 'l' :: rest => some (.null, rest)
    | 't' :: 'r' :: 'u' :: 'e' :: rest => some (.boolean true, rest)
    | 'f' :: 'a' :: 'l' :: 's' :: 'e' :: rest => some (.boolean false, rest)
    | text => do
      let (literal, rest) ← NumberLiteral.read? text
      let number ← literal.toNumber?
      pure (.number number, rest)

/-- Reads elements up to the closing bracket. -/
def readItems? (depth : Nat) : (fuel : Nat) → Text → Option (List Value × Text)
  | 0, _ => none
  | fuel + 1, text => do
    let (item, text) ← read? depth fuel text
    match skipBlanks text with
    | ',' :: text =>
      let (items, rest) ← readItems? depth fuel text
      pure (item :: items, rest)
    | ']' :: rest => pure ([item], rest)
    | _ => none

/-- Reads fields up to the closing brace. -/
def readFields? (depth : Nat) : (fuel : Nat) → Text → Option (List (String × Value) × Text)
  | 0, _ => none
  | fuel + 1, text =>
    match skipBlanks text with
    | '"' :: text => do
      let (key, text) ← readString? [] (text.length + 1) text
      match skipBlanks text with
      | ':' :: text =>
        let (value, text) ← read? depth fuel text
        match skipBlanks text with
        | ',' :: text =>
          let (fields, rest) ← readFields? depth fuel text
          pure ((key, value) :: fields, rest)
        | '}' :: rest => pure ([(key, value)], rest)
        | _ => none
      | _ => none
    | _ => none

end

/-- The value that a whole text stands for. -/
def parse? (text : Text) : Option Value := do
  let (value, rest) ← read? depthLimit (text.length + 1) text
  if (skipBlanks rest).isEmpty then pure value else none

end Value

end CharacterSheet
