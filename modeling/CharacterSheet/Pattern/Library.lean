import CharacterSheet.Text.Basic

/-!
# Pattern libraries

Patterns are read and matched by a library. A rule needs little of it: to compile a pattern, which
may fail, to know how many groups the pattern has, and to put a replacement text in place of its
matches. What the patterns mean is up to the library.
-/

namespace CharacterSheet

/-- A pattern that a library has compiled. -/
structure CompiledPattern where
  /-- How many groups there are, the whole match included. -/
  groups : Nat
  /-- The text with the replacement in place of the first match. -/
  replaceFirst : (replacement text : Text) → Text
  /-- The text with the replacement in place of every match. -/
  replaceAll : (replacement text : Text) → Text

/-- What compiles patterns. -/
structure PatternLibrary where
  /-- Compiles a pattern, where letters may match in either case and `^` and `$` at lines. There is
  none where the library refuses the pattern. -/
  compile? : (ignoreCase lines : Bool) → (pattern : Text) → Option CompiledPattern

end CharacterSheet
