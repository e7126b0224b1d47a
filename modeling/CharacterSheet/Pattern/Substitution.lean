import CharacterSheet.Fault
import CharacterSheet.Pattern.Library
import CharacterSheet.Pattern.Replacement
import CharacterSheet.Value.Basic

/-!
# Substitutions

A substitution replaces what a pattern matches, once or everywhere. A rule writes one down; making
it fails if the library of patterns refuses the pattern.
-/

namespace CharacterSheet

/-- A substitution as it is written. -/
structure SubstitutionRule where
  pattern : String
  replacement : String
  /-- `g` for everywhere, `i` to ignore letter case, `m` to match at lines. -/
  flags : String := "g"
  deriving DecidableEq, Repr

namespace SubstitutionRule

/-- Reads a rule: `[pattern, replacement]`, `[pattern, replacement, flags]`, or an object with these
fields, where the flags may be missing or null. -/
def ofValue? : Value → Option SubstitutionRule
  | .array [.string pattern, .string replacement] => some { pattern, replacement }
  | .array [.string pattern, .string replacement, .string flags] =>
    some { pattern, replacement, flags }
  | .object fields => do
    let pattern ← (Fields.get? "pattern" fields).bind Value.string?
    let replacement ← (Fields.get? "replacement" fields).bind Value.string?
    match Fields.get? "flags" fields with
    | none | some .null => some { pattern, replacement }
    | some (.string flags) => some { pattern, replacement, flags }
    | some _ => none
  | _ => none

end SubstitutionRule

/-- A substitution that is ready to be applied. -/
structure Substitution where
  pattern : String
  compiled : CompiledPattern
  /-- The replacement, with mentions of groups in braces. -/
  replacement : Text
  /-- Whether every match is replaced and not the first only. -/
  everywhere : Bool

namespace Substitution

/-- Makes a substitution of a rule. -/
def ofRule (patterns : PatternLibrary) (rule : SubstitutionRule) : Except Fault Substitution :=
  let has (flag : Char) : Bool := rule.flags.toList.any (· == flag)
  match patterns.compile? (has 'i') (has 'm') rule.pattern.toList with
  | some compiled =>
    .ok
      { pattern := rule.pattern
        compiled
        replacement := Replacement.braced compiled.groups rule.replacement.toList
        everywhere := has 'g' }
  | none => .error (.ruleData (.badPattern rule.pattern))

/-- The text after the substitution. -/
def apply (substitution : Substitution) (text : Text) : Text :=
  if substitution.everywhere then substitution.compiled.replaceAll substitution.replacement text
  else substitution.compiled.replaceFirst substitution.replacement text

/-- The text after several substitutions, one after the other. -/
def applyAll (substitutions : List Substitution) (text : Text) : Text :=
  substitutions.foldl (fun text substitution => substitution.apply text) text

end Substitution

end CharacterSheet
