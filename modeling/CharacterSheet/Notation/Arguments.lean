import CharacterSheet.Text.Blank

/-!
# Arguments

The content of a notation is split into arguments at separators that stand outside of nested spans
and outside of quoted arguments. An argument is quoted when its first character that is not blank
is a quote; the quote lasts up to the next character of the same kind.
-/

namespace CharacterSheet

namespace Arguments

/-- Where the reading of arguments stands. -/
structure Place where
  /-- How many nested spans are open. -/
  depth : Nat := 0
  /-- The quote that is open, if one is. -/
  quote? : Option Char := none
  /-- Whether only blanks were read of the argument so far. -/
  fresh : Bool := true
  deriving DecidableEq, Repr

namespace Place

/-- At the start of an argument. -/
def start : Place := {}

/-- Inside one more span. -/
def enter (place : Place) : Place := { place with depth := place.depth + 1, fresh := false }

/-- Outside of one span. -/
def leave (place : Place) : Place := { place with depth := place.depth - 1 }

/-- After a character outside of quotes. -/
def pass (place : Place) (c : Char) : Place :=
  { depth := place.depth
    quote? := if place.fresh && place.depth == 0 && (c == '\'' || c == '"') then some c else none
    fresh := place.fresh && isBlank c }

end Place

/-- Puts a character in front of the first piece. -/
def consFirst (c : Char) : List Text → List Text
  | [] => [[c]]
  | piece :: pieces => (c :: piece) :: pieces

/-- The pieces between separators, with at most `cuts` cuts. -/
def pieces (separator : Char) : (cuts : Nat) → Place → Text → List Text
  | _, _, [] => [[]]
  | cuts, place, c :: text =>
    match place.quote? with
    | some quote =>
      consFirst c
        (pieces separator cuts (if c = quote then { place with quote? := none } else place) text)
    | none =>
      if c = '{' ∧ text.head? = some '{' then
        match text with
        | [] => [[c]]
        | d :: rest => consFirst c (consFirst d (pieces separator cuts place.enter rest))
      else if 0 < place.depth ∧ c = '}' ∧ text.head? = some '}' then
        match text with
        | [] => [[c]]
        | d :: rest => consFirst c (consFirst d (pieces separator cuts place.leave rest))
      else if place.depth = 0 ∧ c = separator ∧ 0 < cuts then
        [] :: pieces separator (cuts - 1) .start text
      else consFirst c (pieces separator cuts (place.pass c) text)

/-- The first arguments, at most `limit` of them: the last one keeps any further separators. -/
def splitAtMost (separator : Char) (limit : Nat) (content : Text) : List Text :=
  (pieces separator (limit - 1) .start content).map Text.trim

/-- All arguments; there are at most as many separators as characters. -/
def split (separator : Char) (content : Text) : List Text :=
  (pieces separator content.length .start content).map Text.trim

/-- The arguments between commas. -/
def ofContent (content : Text) : List Text := split ',' content

/-- How many arguments a content gives; blank content gives none. -/
def count (content : Text) : Nat :=
  if (Text.trim content).isEmpty then 0 else (ofContent content).length

end Arguments

end CharacterSheet
