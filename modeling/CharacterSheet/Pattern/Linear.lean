import CharacterSheet.Pattern.Library
import CharacterSheet.Pattern.Replacement
import CharacterSheet.Pattern.Search

/-!
# The library of the search in linear time

Patterns are read by `Pattern.read?` and found by the threads of their programs. In a replacement
text the mentions of groups are expanded for each match. A pattern whose program would be too long
is refused.
-/

namespace CharacterSheet

namespace PatternMatch

/-- The text of a mentioned group in a match, where `names` has the numbers of named groups. A group
that the match did not pass has none. -/
def mentioned (names : List (String × Nat)) (text : Text) (found : PatternMatch) :
    Replacement.Mention → Text
  | .number index => (found.group? text index).getD []
  | .name name => ((names.lookup name).bind (found.group? text)).getD []

/-- Puts a replacement in place of matches, from left to right, in the text from the offset on. -/
def replaceFrom (names : List (String × Nat)) (replacement whole : Text) (offset : Nat)
    (rest : Text) : List PatternMatch → Text
  | [] => rest
  | found :: more =>
    rest.take (found.start - offset) ++
      Replacement.expand (found.mentioned names whole) replacement ++
      replaceFrom names replacement whole found.stop (rest.drop (found.stop - offset)) more

end PatternMatch

/-- A pattern with its program. -/
def CompiledPattern.ofPattern (pattern : Pattern) : CompiledPattern :=
  let program := PatternProgram.ofPattern pattern
  let replaceMost (limit : Nat) (replacement text : Text) : Text :=
    PatternMatch.replaceFrom pattern.groupNames replacement text 0 text
      (program.findAll limit text)
  { groups := pattern.lastGroup + 1
    replaceFirst := replaceMost 1
    replaceAll := fun replacement text => replaceMost (text.length + 1) replacement text }

/-- The library of the search in linear time. -/
def PatternLibrary.linear : PatternLibrary where
  compile? ignoreCase lines text :=
    match Pattern.read? { ignoreCase, lines } text with
    | some pattern =>
      if pattern.size ≤ PatternProgram.mostSteps then some (.ofPattern pattern) else none
    | none => none

end CharacterSheet
