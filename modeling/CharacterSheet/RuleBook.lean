import CharacterSheet.Value.Parser
import CharacterSheet.Value.Path

/-!
# Rule data

Rule data defines skills, attributes, advantages and conditions, one category a file. A rule book
holds what is defined; a shelf reads categories from files when they are first asked for and never
reads one twice, also when it was missing or malformed.
-/

namespace CharacterSheet

/-- Rule data by category. -/
structure RuleBook where
  categories : Fields

namespace RuleBook

/-- A rule book without any data. -/
def empty : RuleBook := ⟨[]⟩

/-- The categories that are kept in files, with the names of the files. -/
def files : List (String × String) :=
  [("skills", "skills.json"), ("attributes", "attributes.json"), ("merits", "merits.json"),
    ("variations", "variations.json"), ("adaptations", "adaptations.json"),
    ("scars", "scars.json"), ("conditions", "conditions.json"), ("tilts", "tilts.json")]

/-- The file of a category. -/
def file? (category : String) : Option String := files.lookup category

/-- Whether a category is one of those kept in files. -/
def isKnown (category : String) : Bool := (file? category).isSome

/-- All data of a category. -/
def data? (book : RuleBook) (category : String) : Option Value :=
  Fields.get? category book.categories

/-- The record of a category under a key; null is no record. -/
def record? (book : RuleBook) (category key : String) : Option Value :=
  match (book.data? category).bind (Value.field? key) with
  | some .null | none => none
  | some record => some record

/-- The data of a category at a path. -/
def at? (book : RuleBook) (category : String) (path : Path) : Option Value :=
  (book.data? category).bind fun data => data.followIndexed? path

/-- Reads every file that exists and holds a value. -/
def ofFiles (read? : String → Option Text) : RuleBook :=
  ⟨Fields.ofList (files.filterMap fun (category, file) =>
    ((read? file).bind Value.parse?).map fun data => (category, data))⟩

end RuleBook

/-- Categories that were asked for, each with what was found then. -/
structure Shelf where
  found : List (String × Option Value)

namespace Shelf

/-- A shelf that was never asked for anything. -/
def empty : Shelf := ⟨[]⟩

/-- A shelf on which every category of a rule book stands. -/
def ofBook (book : RuleBook) : Shelf :=
  ⟨book.categories.map fun (category, data) => (category, some data)⟩

/-- The data of a category: as found before, else read now and kept. -/
def fetch (read? : String → Option Text) (category : String) (shelf : Shelf) :
    Option Value × Shelf :=
  match shelf.found.lookup category with
  | some data? => (data?, shelf)
  | none =>
    let data? := ((RuleBook.file? category).bind read?).bind Value.parse?
    (data?, ⟨(category, data?) :: shelf.found⟩)

/-- Asks for every category that is kept in files. -/
def fetchAll (read? : String → Option Text) (shelf : Shelf) : Shelf :=
  RuleBook.files.foldl (fun shelf (category, _) => (shelf.fetch read? category).2) shelf

/-- The rule book of everything found so far. -/
def book (shelf : Shelf) : RuleBook :=
  ⟨Fields.ofList (shelf.found.filterMap fun (category, data?) =>
    data?.map fun data => (category, data))⟩

/-- What was found once stays. -/
theorem fetch_fetch (read? later? : String → Option Text) (category : String) (shelf : Shelf) :
    ((shelf.fetch read? category).2.fetch later? category).1 = (shelf.fetch read? category).1 := by
  cases found : shelf.found.lookup category <;> simp [fetch, found]

end Shelf

end CharacterSheet
