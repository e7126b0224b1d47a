import CharacterSheet.Fault
import CharacterSheet.Identifier

/-!
# Placeholders

The markup of a tooltip is kept aside while a document is expanded, and a token stands in its place.
At the end every token is replaced by its markup, in which tokens are replaced in turn. Nesting is
bounded by the number of entries: a deeper one would have to repeat an entry.
-/

namespace CharacterSheet

/-- Markup kept aside under identifiers, and how many words were drawn so far. -/
structure Placeholders where
  entries : List (String × Text) := []
  drawn : Nat := 0
  deriving DecidableEq, Repr

/-- A part of a text with tokens. -/
inductive TokenPart
  | plain (text : Text)
  | token (id : String)
  /-- The opener of a token without a closer. -/
  | unclosed
  deriving DecidableEq, Repr

namespace TokenPart

/-- What opens a token. -/
def opener : Text := "@@TT:".toList

/-- What closes a token. -/
def closer : Text := "@@".toList

/-- The token of an identifier. -/
def tokenText (id : String) : Text := opener ++ id.toList ++ closer

/-- The parts of a text; nothing is read after an unclosed token. -/
def read : (fuel : Nat) → Text → List TokenPart
  | 0, _ => []
  | fuel + 1, text =>
    match Text.cut? opener text with
    | none => [.plain text]
    | some (before, rest) =>
      match Text.cut? closer rest with
      | none => [.plain before, .unclosed]
      | some (id, rest) => .plain before :: .token (String.ofList id) :: read fuel rest

/-- The parts of a text. -/
def ofText (text : Text) : List TokenPart := read (text.length + 1) text

end TokenPart

namespace Placeholders

/-- The markup kept under an identifier. -/
def get? (placeholders : Placeholders) (id : String) : Option Text :=
  placeholders.entries.lookup id

/-- The identifiers of the entries. -/
def used (placeholders : Placeholders) : List String := placeholders.entries.map Prod.fst

/-- Draws words until one has an identifier that is not in use, at most `more` after the first. -/
def drawFresh (words : WordSource) (used : List String) (drawn : Nat) :
    (more : Nat) → String × Nat
  | 0 => (Identifier.ofWord (words.word drawn), drawn + 1)
  | more + 1 =>
    let id := Identifier.ofWord (words.word drawn)
    if used.contains id then drawFresh words used (drawn + 1) more else (id, drawn + 1)

/-- Draws an identifier that no entry has. As long as one is free, the source comes to it within its
wait (`WordSource.comes`). -/
def draw (words : WordSource) (placeholders : Placeholders) : String × Placeholders :=
  let (id, drawn) := drawFresh words placeholders.used placeholders.drawn
    (words.wait placeholders.used placeholders.drawn)
  (id, { placeholders with drawn })

/-- Keeps markup aside and gives the token for it. -/
def register (words : WordSource) (html : Text) (placeholders : Placeholders) :
    Text × Placeholders :=
  let (id, placeholders) := placeholders.draw words
  (TokenPart.tokenText id,
    { placeholders with entries := (id, html) :: placeholders.entries.filter (·.1 ≠ id) })

/-- Forgets all entries, but not how many words were drawn. -/
def clear (placeholders : Placeholders) : Placeholders := { placeholders with entries := [] }

/-- Replaces the tokens of a text, nested at most `levels - 1` deep. -/
def substituteWithin (placeholders : Placeholders) :
    (levels : Nat) → Text → Except AssemblyError Text
  | 0, _ => .error .cyclicPlaceholders
  | levels + 1, text => do
    let parts ← (TokenPart.ofText text).mapM fun part =>
      match part with
      | .plain text => .ok text
      | .unclosed => .error .openPlaceholder
      | .token id =>
        match placeholders.get? id with
        | none => .error (.unknownPlaceholder id)
        | some html => substituteWithin placeholders levels html
    pure parts.flatten

/-- Replaces every token of a text by its markup. -/
def substitute (placeholders : Placeholders) (text : Text) : Except AssemblyError Text :=
  placeholders.substituteWithin (placeholders.entries.length + 1) text

end Placeholders

end CharacterSheet
