import CharacterSheet.Advantage.Kind

/-!
# Faults

Everything that can stop a rendering, by cause. Each cause carries what its message shows; the
wording is in the `message` functions alone. `Fault.isRecoverable` tells the faults that a lenient
rendering may show in place of the failed notation from those that always stop it.
-/

namespace CharacterSheet

/-- Why handler content cannot be read or evaluated. -/
inductive Malformation
  | noIdentifier
  | noNumber
  | noString
  | noQuote
  | openString
  | missing (c : Char) (offset : Nat) (text : String)
  | unexpected (c : Char)
  | unexpectedEnd
  | trailing (rest input : String)
  | divisionByZero
  deriving DecidableEq, Repr

namespace Malformation

/-- The wording of a malformation. -/
def message : Malformation → String
  | .noIdentifier => "identifier expected"
  | .noNumber => "number expected"
  | .noString => "string expected"
  | .noQuote => "expected quoted string"
  | .openString => "unterminated string"
  | .missing c offset text => s!"expected '{c}' at offset {offset} in '{text}'"
  | .unexpected c => s!"unexpected '{c}' in arithmetic expression"
  | .unexpectedEnd => "unexpected end of arithmetic expression"
  | .trailing rest input => s!"trailing input '{rest}' in expression '{input}'"
  | .divisionByZero => "division by zero"

end Malformation

/-- Notation that names no operation. -/
inductive Unsupported
  | noOperation (text : String)
  | unknownHandler (name : String)
  deriving DecidableEq, Repr

namespace Unsupported

/-- The wording of unsupported notation. -/
def message : Unsupported → String
  | .noOperation text => s!"'{text}' is neither a keyword nor HANDLER:content"
  | .unknownHandler name => s!"unknown handler '{name}'"

end Unsupported

/-- Why no scar type can be found for an advantage. -/
inductive Untyped
  | noLink
  | noScar (key : String)
  | noType (key : String)
  deriving DecidableEq, Repr

namespace Untyped

/-- The wording of a missing scar type. -/
def message : Untyped → String
  | .noLink => "no physical/mental/social type and no entangledScar"
  | .noScar key => s!"entangled scar '{key}' not found"
  | .noType key => s!"entangled scar '{key}' has no valid type"

end Untyped

/-- Why a reference stands for no value. -/
inductive Unresolved
  | emptyReference
  | emptySegment
  | noProperty (segment place : String)
  | noElement (segment place : String)
  | noFields (segment kind : String)
  | noAttribute (trait : String)
  | noEntity
  | noVars
  | noStatEntity
  | untyped (cause : Untyped)
  | noRuleData (path : String)
  | nameless
  | notNumeric
  | unknown
  deriving DecidableEq, Repr

namespace Unresolved

/-- The wording of an unresolved reference. -/
def message : Unresolved → String
  | .emptyReference => "empty reference"
  | .emptySegment => "empty path segment"
  | .noProperty segment place => s!"no property '{segment}' at '{place}'"
  | .noElement segment place => s!"no element with key '{segment}' in '{place}'"
  | .noFields segment kind => s!"cannot read '{segment}' of {kind}"
  | .noAttribute trait => s!"character has no attribute '{trait}'"
  | .noEntity => "no entity in scope"
  | .noVars => "no vars in scope"
  | .noStatEntity => "scar stats need an entity in scope"
  | .untyped cause => cause.message
  | .noRuleData path => s!"no system data at '{path}'"
  | .nameless => "character has no name"
  | .notNumeric => "does not hold a number"
  | .unknown => "unknown"

end Unresolved

/-- How a handler was misused. -/
inductive Misuse
  | tooManyExpansions (most : Nat)
  | argumentCount (least : Nat) (most : Option Nat) (given : Nat)
  | notNumeric (argument : String)
  | notList (argument kind : String)
  | noOptions
  | noOption (key : String)
  | unknownBook (book : String)
  | noPage (book : String)
  | noCitation (text : String)
  | noAnchor
  | unexpectedArgument (argument : String)
  | noNumberAt (argument : String)
  | noDisplayName (argument : String)
  | noNumberFor (argument : String)
  deriving DecidableEq, Repr

namespace Misuse

/-- How many arguments a handler takes, in words. -/
def arityText (least : Nat) : Option Nat → String
  | none => s!"at least {least}"
  | some most => if least = most then toString least else s!"{least} to {most}"

/-- The wording of a misuse. -/
def message : Misuse → String
  | .tooManyExpansions most =>
    s!"more than {most} notation expansions; a handler may be re-emitting its own notation"
  | .argumentCount least most given =>
    s!"expected {arityText least most} argument(s), got {given}"
  | .notNumeric argument => s!"'{argument}' is not numeric"
  | .notList argument kind => s!"'{argument}' is a {kind}, not a list"
  | .noOptions => "no options map on the entity in scope"
  | .noOption key => s!"no option '{key}'"
  | .unknownBook book => s!"unknown book code '{book}'"
  | .noPage book => s!"no page given for '{book}'"
  | .noCitation text => s!"'{text}' is not a BOOK/page citation"
  | .noAnchor => "expected an anchor and a content argument"
  | .unexpectedArgument argument => s!"unexpected argument '{argument}'"
  | .noNumberAt argument => s!"no numeric value at '{argument}'"
  | .noDisplayName argument => s!"no display name for '{argument}'"
  | .noNumberFor argument => s!"no numeric value for '{argument}'"

end Misuse

/-- Mistakes in rule data or in the records of a character. -/
inductive RuleError
  | badPattern (pattern : String)
  | badDeviation (deviation advantage : String)
  | malformed (kind : AdvantageKind) (key : String)
  | noKey (kind : AdvantageKind) (record : String)
  | noEffectLevel (kind : AdvantageKind) (key : String) (level : Int) (levels : List String)
  | badEffect (kind : AdvantageKind) (key : String) (found : String)
  | noEffect (kind : AdvantageKind) (key : String)
  | badSecondary (field parent : String) (entry : String)
  | noSecondaryKey (field parent : String)
  | ownSecondary (kind : AdvantageKind) (key : String)
  | badActivation (key : String) (found : String)
  | untyped (key : String) (cause : Untyped)
  deriving DecidableEq, Repr

namespace RuleError

/-- The wording of a mistake in rule data. -/
def message : RuleError → String
  | .badPattern pattern => s!"bad regexpReplace pattern '{pattern}'"
  | .badDeviation deviation advantage => s!"deviation '{deviation}' of '{advantage}'"
  | .malformed kind key => s!"{kind.name} '{key}' is malformed"
  | .noKey kind record => s!"{kind.name} record without a key: {record}"
  | .noEffectLevel kind key level levels =>
    s!"{kind.name} '{key}' has no effect for level {level}; available levels: " ++
      ", ".intercalate levels
  | .badEffect kind key found =>
    s!"{kind.name} '{key}' effect must be text or a per-level map, found {found}"
  | .noEffect kind key => s!"{kind.name} '{key}' has no effect text"
  | .badSecondary field parent entry =>
    s!"{field} of '{parent}' holds {entry}, expected a key or a record"
  | .noSecondaryKey field parent => s!"{field} of '{parent}' has an entry without a key"
  | .ownSecondary kind key => s!"{kind.name} '{key}' is its own secondary advantage"
  | .badActivation key found =>
    s!"scar '{key}' has unknown activation {found}; " ++
      "expected controlled, involuntary or persistent"
  | .untyped key cause => s!"variation '{key}': {cause.message}"

end RuleError

/-- What is wrong with the tags of a document. -/
inductive MarkupError
  | openComment (offset : Nat)
  | openTag (start : String)
  | notAllowed (name : String)
  | closedVoid (name : String)
  | crossed (closing opened : String)
  | neverOpened (name : String)
  | neverClosed (name : String)
  deriving DecidableEq, Repr

namespace MarkupError

/-- The wording of a markup error. -/
def message : MarkupError → String
  | .openComment offset => s!"unterminated comment at offset {offset}"
  | .openTag start => s!"unterminated tag '{start}'"
  | .notAllowed name => s!"tag <{name}> is not allowed here"
  | .closedVoid name => s!"closing tag for void element <{name}>"
  | .crossed closing opened => s!"</{closing}> closes <{opened}>"
  | .neverOpened name => s!"</{name}> without opening tag"
  | .neverClosed name => s!"<{name}> is never closed"

end MarkupError

/-- What went wrong when a document was put together. -/
inductive AssemblyError
  | cyclicPlaceholders
  | openPlaceholder
  | unknownPlaceholder (id : String)
  | notationLeft (start : String)
  deriving DecidableEq, Repr

namespace AssemblyError

/-- The wording of an assembly error. -/
def message : AssemblyError → String
  | .cyclicPlaceholders => "cyclic tooltip placeholders"
  | .openPlaceholder => "truncated tooltip placeholder"
  | .unknownPlaceholder id => s!"unknown tooltip placeholder '{id}'"
  | .notationLeft start => s!"notation left after finalization: '{start}'"

end AssemblyError

/-- Everything that can stop a rendering. -/
inductive Fault
  | unterminated (start : String)
  | malformed (cause : Malformation)
  | unsupported (cause : Unsupported)
  | unresolved (reference : String) (cause : Unresolved)
  | misused (handler : String) (cause : Misuse)
  | ruleData (cause : RuleError)
  | conflict (property first second : String)
  | markup (cause : MarkupError)
  | assembly (cause : AssemblyError)
  deriving DecidableEq, Repr

namespace Fault

/-- The wording of a fault. -/
def message : Fault → String
  | .unterminated start => s!"unterminated notation: {start}"
  | .malformed cause => s!"syntax error: {cause.message}"
  | .unsupported cause => s!"unsupported notation: {cause.message}"
  | .unresolved reference cause => s!"cannot resolve '{reference}': {cause.message}"
  | .misused handler cause => s!"{handler}: {cause.message}"
  | .ruleData cause => s!"rule data error: {cause.message}"
  | .conflict property first second =>
    s!"deviation conflict on '{property}': '{first}' and '{second}' both replace it"
  | .markup cause => s!"markup error: {cause.message}"
  | .assembly cause => s!"internal error: {cause.message}"

/-- Whether a lenient rendering shows the fault in place of the notation that caused it. -/
def isRecoverable : Fault → Bool
  | .malformed _ | .unsupported _ | .unresolved _ _ | .misused _ _ | .markup _ => true
  | .unterminated _ | .ruleData _ | .conflict _ _ _ | .assembly _ => false

end Fault

end CharacterSheet
