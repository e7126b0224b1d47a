import CharacterSheet.Handler.Conditional
import CharacterSheet.Handler.Listing
import CharacterSheet.Handler.Rated
import CharacterSheet.Handler.Tooltip
import CharacterSheet.Handler.Wording

/-!
# The built-in handlers
-/

namespace CharacterSheet

namespace Handler

/-- The handlers that every renderer has unless it is made without. -/
def builtin : List Handler :=
  [characterName, lineBreak, lower, upper, ref, value, nameValue, signed, dots, maximum, minimum,
    calculation, roundUp, roundDown, ifTrue, ifFalse, ifNa, ifIn, ifNotIn, switch, tooltip,
    inlineList, optionList, inlineOption, source]

end Handler

namespace Registry

/-- The registry of the built-in handlers. -/
def builtin : Registry := ({} : Registry).registerAll Handler.builtin

end Registry

end CharacterSheet
