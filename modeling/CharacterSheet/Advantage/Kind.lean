/-!
# Kinds of advantages

Merits, variations and scars go through the same steps and differ in their rule data, their rating
and the fields that are computed for them.
-/

namespace CharacterSheet

/-- The three kinds of advantages. -/
inductive AdvantageKind
  | merit
  | variation
  | scar
  deriving DecidableEq, Repr

namespace AdvantageKind

/-- The word for one advantage of the kind. -/
def name : AdvantageKind → String
  | .merit => "merit"
  | .variation => "variation"
  | .scar => "scar"

/-- The category of rule data that defines advantages of the kind. -/
def category : AdvantageKind → String
  | .merit => "merits"
  | .variation => "variations"
  | .scar => "scars"

end AdvantageKind

end CharacterSheet
