import CharacterSheet.Fault
import CharacterSheet.Text.Blank

/-!
# Tags

Markup is cut into text and marks, where a mark is a tag, a comment or a declaration. A `<` starts a
mark when a letter, a slash or an exclamation mark follows; any other is text. Quoted attributes may
hold anything.
-/

namespace CharacterSheet

namespace Markup

/-- A part of markup: running text, or a tag, comment or declaration with its angle brackets. -/
inductive Piece
  | text (characters : Text)
  | mark (characters : Text)
  deriving DecidableEq, Repr

namespace Piece

/-- The characters of a piece. -/
def content : Piece → Text
  | .text characters => characters
  | .mark characters => characters

end Piece

/-- The start of a mark that is shown when it has no end. -/
def excerpt (text : Text) : String := String.ofList (text.take 40)

/-- Reads a tag up to its `>`, which quotes hide; another `<` outside of quotes ends nothing. -/
def readTag? (quote? : Option Char) : Text → Option (Text × Text)
  | [] => none
  | c :: text =>
    let next? := match quote? with
      | some quote => some (if c = quote then none else some quote)
      | none => if c = '<' then none else some (if c = '"' ∨ c = '\'' then some c else none)
    if quote?.isNone && c == '>' then some (['>'], text)
    else
      match next? with
      | none => none
      | some quote? => (readTag? quote? text).map fun (tag, rest) => (c :: tag, rest)

/-- Reads a comment after its `<!` up to `-->`. -/
def readComment? (text : Text) : Option (Text × Text) :=
  (Text.cut? "-->".toList text).map fun (inner, rest) => (inner ++ "-->".toList, rest)

/-- Whether a `<` before the text starts a mark. -/
def startsMark (text : Text) : Bool :=
  match text with
  | c :: _ => c.isAlpha || c == '/' || c == '!'
  | [] => false

/-- Reads the mark that a `<` before the text starts. `offset` is the byte offset of the `<`. -/
def readMark (offset : Nat) (text : Text) : Except MarkupError (Text × Text) :=
  match Text.after? "!--".toList text with
  | some _ =>
    match readComment? (text.drop 1) with
    | some (inner, rest) => .ok ('<' :: '!' :: inner, rest)
    | none => .error (.openComment offset)
  | none =>
    match readTag? none text with
    | some (tag, rest) => .ok ('<' :: tag, rest)
    | none => .error (.openTag (excerpt ('<' :: text)))

/-- Puts a character in front of the leading text of some pieces. -/
def consText (c : Char) : List Piece → List Piece
  | .text text :: pieces => .text (c :: text) :: pieces
  | pieces => .text [c] :: pieces

/-- Cuts markup that starts at a byte offset. -/
def piecesFrom (offset : Nat) : (fuel : Nat) → Text → Except MarkupError (List Piece)
  | 0, _ => .ok []
  | _ + 1, [] => .ok []
  | fuel + 1, c :: text =>
    if c = '<' ∧ startsMark text = true then do
      let (mark, rest) ← readMark offset text
      let pieces ← piecesFrom (offset + Text.bytes mark) fuel rest
      pure (.mark mark :: pieces)
    else do
      let pieces ← piecesFrom (offset + c.utf8Size) fuel text
      pure (consText c pieces)

/-- Cuts markup into text and marks. -/
def pieces (html : Text) : Except MarkupError (List Piece) :=
  piecesFrom 0 html.length html

/-- A tag, by its lower-case name. -/
inductive Tag
  | opening (name : String)
  | selfClosing (name : String)
  | closing (name : String)
  deriving DecidableEq, Repr

namespace Tag

/-- The name of the element. -/
def name : Tag → String
  | .opening name => name
  | .selfClosing name => name
  | .closing name => name

/-- The name at the start of a tag's inside. -/
def readName (inner : Text) : String :=
  String.ofList ((inner.takeWhile fun c => c.isAlphanum || c == '-').map Char.toLower)

/-- The tag of a mark; comments and declarations are none. -/
def ofMark? (mark : Text) : Option Tag :=
  match mark with
  | '<' :: '!' :: _ => none
  | _ =>
    match (mark.drop 1).dropLast with
    | '/' :: inner => some (.closing (readName inner))
    | inner =>
      if (Text.trimEnd inner).getLast? = some '/' then some (.selfClosing (readName inner))
      else some (.opening (readName inner))

end Tag

/-- The tags of some pieces in order. -/
def tags (pieces : List Piece) : List Tag :=
  pieces.filterMap fun piece =>
    match piece with
    | .mark mark => Tag.ofMark? mark
    | .text _ => none

end Markup

end CharacterSheet
