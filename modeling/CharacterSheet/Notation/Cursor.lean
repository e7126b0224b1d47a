import CharacterSheet.Decimal.Reading
import CharacterSheet.Fault
import CharacterSheet.Notation.Quoted

/-!
# Cursors

A cursor walks forward through a text. Each reading returns what it read, or why it could not, with
the cursor where the reading stopped: a failed reading does not move the cursor back.
-/

namespace CharacterSheet

/-- Whether a character may be part of a dotted name. -/
def isPathChar (c : Char) : Bool := c == '_' || c == '.' || c.isAlphanum

/-- The longest number literal at the start of a text, digits and at most one point, and the
rest. -/
def spanNumber (text : Text) : Text × Text :=
  let (whole, rest) := Digits.spanStart text
  match rest with
  | '.' :: rest =>
    let (places, rest) := Digits.spanStart rest
    (whole ++ '.' :: places, rest)
  | _ => (whole, rest)

/-- The number of a literal, which needs at least one digit. -/
def literalNumber? (literal : Text) : Option Float :=
  if literal.any Char.isDigit then Text.number? literal else none

/-- A text and what is left of it. -/
structure Cursor where
  whole : Text
  rest : Text
  deriving DecidableEq, Repr

namespace Cursor

/-- At the start of a text. -/
def start (text : Text) : Cursor := ⟨text, text⟩

/-- The byte offset of the cursor. -/
def offset (cursor : Cursor) : Nat := Text.bytes cursor.whole - Text.bytes cursor.rest

/-- Whether nothing is left. -/
def atEnd (cursor : Cursor) : Bool := cursor.rest.isEmpty

/-- The next character. -/
def peek? (cursor : Cursor) : Option Char := cursor.rest.head?

/-- Passes blanks. -/
def skipBlanks (cursor : Cursor) : Cursor := { cursor with rest := Text.trimStart cursor.rest }

/-- Passes the given character if it is next. -/
def consume (c : Char) (cursor : Cursor) : Bool × Cursor :=
  match cursor.rest with
  | d :: rest => if d = c then (true, { cursor with rest }) else (false, cursor)
  | [] => (false, cursor)

/-- Passes the given character, which has to be next. -/
def expect (c : Char) (cursor : Cursor) : Except Malformation Unit × Cursor :=
  match cursor.consume c with
  | (true, cursor) => (.ok (), cursor)
  | (false, cursor) => (.error (.missing c cursor.offset (String.ofList cursor.whole)), cursor)

/-- Reads a dotted name. -/
def readPath (cursor : Cursor) : Except Malformation Text × Cursor :=
  match cursor.rest.span isPathChar with
  | ([], _) => (.error .noIdentifier, cursor)
  | (name, rest) => (.ok name, { cursor with rest })

/-- Reads a number without sign and exponent. -/
def readNumber (cursor : Cursor) : Except Malformation Float × Cursor :=
  let (literal, rest) := spanNumber cursor.rest
  match literalNumber? literal with
  | some x => (.ok x, { cursor with rest })
  | none => (.error .noNumber, { cursor with rest })

/-- Reads a quoted literal. -/
def readQuoted (cursor : Cursor) : Except Malformation Text × Cursor :=
  match cursor.rest with
  | [] => (.error .noString, cursor)
  | c :: text =>
    if Quoted.isQuote c then
      match Quoted.readInner? c text with
      | some (inner, rest) => (.ok inner, { cursor with rest })
      | none => (.error .openString, { cursor with rest := [] })
    else (.error .noQuote, cursor)

end Cursor

end CharacterSheet
