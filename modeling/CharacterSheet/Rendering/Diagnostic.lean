/-!
# Diagnostics

Events that a rendering reports beside its result.
-/

namespace CharacterSheet

/-- What an event is about. -/
inductive DiagnosticKind
  | tooltipRegistered
  | inlineError
  | placeholderPreserved
  deriving DecidableEq, Repr

/-- One event, with the notation it comes from if it comes from one. -/
structure Diagnostic where
  kind : DiagnosticKind
  message : String
  source? : Option String := none
  deriving DecidableEq, Repr

end CharacterSheet
