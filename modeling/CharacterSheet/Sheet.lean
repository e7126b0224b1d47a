import CharacterSheet.Advantage.Player
import CharacterSheet.Advantage.Tree

/-!
# Sheets

A sheet is a character with the advantages processed and rows of dots on the rated traits. Page
templates are rendered against it. It is built at the first rendering that succeeds to build it and
used again after that.
-/

namespace CharacterSheet

/-- A character and what renders it. -/
structure Sheet where
  character : Value
  engine : Engine

namespace Sheet

/-- The groups of traits that get rows of dots. -/
def ratedGroups : List String := ["attributes", "skills"]

/-- A trait with its row of dots; only objects have room for one. -/
def withDots (limit : Nat) : Value → Value
  | .object fields =>
    let dots := ((DotRating.ofValue (.object fields) none).capped limit).dots
    .object (Fields.insert "dotline" (.ofText (Dot.rowMarkup dots)) fields)
  | trait => trait

/-- The fields of a character with rows of dots in one group of traits. -/
def withGroupDots (limit : Nat) (fields : Fields) (group : String) : Fields :=
  match Fields.get? group fields with
  | some (.object traits) =>
    let rated := traits.map fun (name, trait) => (name, withDots limit trait)
    Fields.insert group (.object rated) fields
  | _ => fields

/-- A character with rows of dots on its rated traits. -/
def rated (limit : Nat) : Value → Value
  | .object fields => .object (ratedGroups.foldl (withGroupDots limit) fields)
  | character => character

/-- Sets a field of a character; what is no object has no fields to set. -/
def withField (field : String) (value : Value) : Value → Value
  | .object fields => .object (Fields.insert field value fields)
  | character => character

/-- The scope of a character, strict or lenient as the settings say, and without a location. -/
def scope (sheet : Sheet) (character : Value) : Scope :=
  { character, policy := { strict := sheet.engine.config.strict } }

/-- Processes the records that a character lists in a field, with the character in scope. -/
def processed (sheet : Sheet) (kind : AdvantageKind) (field : String) (character : Value) :
    Action (List Value) :=
  (PlayerRecord.inField character field).mapM fun record =>
    Value.object <$> Advantage.process kind sheet.engine (sheet.scope character) record

/-- Builds the character of the sheet: rows of dots, then the scars, then with these in scope the
merits with all they grant, and the variations. -/
def build (sheet : Sheet) : Action Value := do
  let character := rated sheet.engine.config.maxDots sheet.character
  let scars ← sheet.processed .scar "scars" character
  let character := withField "scars" (.array scars) character
  let merits := PlayerRecord.inField character "merits"
  let tree ← MeritTree.process sheet.engine (sheet.scope character) merits
  let variations ← sheet.processed .variation "variations" character
  pure
    (withField "variations" (.array (tree.variations ++ variations))
      (withField "merits" (.array tree.merits) character))

/-- Renders a template against a built character. -/
def renderBuilt (sheet : Sheet) (character : Value) (template : Text)
    (location? : Option Location) : Action Text :=
  let scope := sheet.scope character
  sheet.engine.render (scope.under { scope.policy with location? }) template

end Sheet

/-- What lasts between the uses of a sheet: the journal, and the character once it is built. -/
structure SheetState where
  journal : Journal := {}
  built? : Option Value := none

namespace Sheet

/-- Builds the character anew. -/
def buildAnew (sheet : Sheet) (state : SheetState) : Except Fault Value × SheetState :=
  let (result, journal) := sheet.build.run state.journal
  (result, { state with journal })

/-- The built character, as built before or else built now and kept. -/
def built (sheet : Sheet) (state : SheetState) : Except Fault Value × SheetState :=
  match state.built? with
  | some character => (.ok character, state)
  | none =>
    match sheet.buildAnew state with
    | (.ok character, state) => (.ok character, { state with built? := some character })
    | failed => failed

/-- Renders a template, which starts at the given location if there is one. -/
def render (sheet : Sheet) (template : Text) (location? : Option Location) (state : SheetState) :
    Except Fault Text × SheetState :=
  match sheet.built state with
  | (.ok character, state) =>
    let (result, journal) :=
      (sheet.renderBuilt character template location?).run state.journal
    (result, { state with journal })
  | (.error fault, state) => (.error fault, state)

end Sheet

end CharacterSheet
