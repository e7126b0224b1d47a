import CharacterSheet.Fault
import CharacterSheet.Markup.Escape
import CharacterSheet.Text.Blank
import CharacterSheet.Value.Basic

/-!
# Citations

A citation names a book by its code and a page. It is written `BOOK/page`, or as a record with the
fields `book` and `page`.
-/

namespace CharacterSheet

/-- A book and a page, as they are written. -/
structure Citation where
  book : Text
  page : Text
  deriving DecidableEq, Repr

namespace Citation

/-- The codes of the books and their titles. -/
def books : List (String × String) :=
  [("CofD", "Chronicles of Darkness"), ("DtR", "Deviant: The Renegades"), ("HL", "Hurt Locker"),
    ("DtCC", "Deviant: The Collector's Cache")]

/-- The title of a book code, in any letter case. -/
def title? (code : Text) : Option String :=
  (books.find? fun (book, _) => Text.sameIgnoringCase book.toList (Text.trim code)).map Prod.snd

/-- The citation that a value holds, if it holds one. -/
def ofValue? : Value → Option Citation
  | .string s =>
    (Text.cutAt? '/' s.toList).map fun (book, page) => ⟨Text.trim book, Text.trim page⟩
  | .object fields => do
    let book ← (Fields.get? "book" fields).bind Value.string?
    match ← Fields.get? "page" fields with
    | .string page => pure ⟨book.toList, page.toList⟩
    | .number n => pure ⟨book.toList, Amount.text n.toFloat⟩
    | _ => none
  | _ => none

/-- The markup of a citation. The book has to be known and the page must not be blank. -/
def markup (citation : Citation) : Except Fault Text :=
  match title? citation.book with
  | none => .error (.misused "SOURCE" (.unknownBook (String.ofList citation.book)))
  | some title =>
    let page := Text.trim citation.page
    if page.isEmpty then .error (.misused "SOURCE" (.noPage (String.ofList citation.book)))
    else
      .ok ("<span class='citation'><em>".toList ++ Markup.escape title.toList ++
        "</em>, p. ".toList ++ Markup.escape page ++ "</span>".toList)

end Citation

end CharacterSheet
