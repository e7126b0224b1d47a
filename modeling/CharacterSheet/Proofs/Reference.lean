import CharacterSheet.Proofs.Failure
import CharacterSheet.Reference

/-!
# References that stand for nothing

Whatever is wrong with a reference, its path or its scope, looking it up fails with
an unresolved reference and with nothing else (`Reference.failsOnly_resolve`). Rule
data that is missing or broken is no fault of its own.
-/

namespace CharacterSheet

namespace Path

theorem failsOnly_read (reference : String) (text : Text) :
    FailsOnly Fault.isUnresolved (read reference text) := by
  unfold read
  dsimp only
  split
  · exact .error rfl
  · exact .ok _

end Path

namespace Value

theorem failsOnly_step (reference : String) (walked : Path) (segment : String) (value : Value) :
    FailsOnly Fault.isUnresolved (step reference walked segment value) := by
  unfold step
  split
  · split
    · exact .ok _
    · exact .error rfl
  · split
    · exact .ok _
    · exact .error rfl
  · exact .error rfl

theorem failsOnly_followFrom
    (reference : String)
    (walked : Path)
    (value : Value)
    (path : Path) :
    FailsOnly Fault.isUnresolved (followFrom reference walked value path) := by
  induction path generalizing walked value with
  | nil => exact .ok value
  | cons segment path inductionHypothesis =>
      exact (failsOnly_step reference walked segment value).bind fun next =>
        inductionHypothesis (walked ++ [segment]) next

end Value

namespace Reference

variable (book : RuleBook) (scope : Scope) (reference : String)

theorem failsOnly_scarStat (stat : ScarStat) :
    FailsOnly Fault.isUnresolved (scarStat book scope reference stat) := by
  unfold scarStat
  split
  · exact .error rfl
  · split
    · exact .error rfl
    · dsimp only
      split
      · exact .error rfl
      · exact .ok _

theorem failsOnly_baseAttribute (trait : BaseAttribute) :
    FailsOnly Fault.isUnresolved (baseAttribute scope reference trait) := by
  unfold baseAttribute
  split
  · exact .error rfl
  · exact .ok _

theorem failsOnly_ruleData (rest : Text) :
    FailsOnly Fault.isUnresolved (ruleData book reference rest) := by
  unfold ruleData
  dsimp only
  split
  · refine (Path.failsOnly_read reference _).bind fun path => ?_
    refine (FailsOnly.ok _).bind fun found? => ?_
    split
    · exact .ok _
    · exact .error rfl
  · refine (FailsOnly.ok _).bind fun found? => ?_
    split
    · exact .ok _
    · exact .error rfl

theorem failsOnly_characterPath (text : Text) :
    FailsOnly Fault.isUnresolved (characterPath book scope reference text) :=
  (Path.failsOnly_read reference text).bind fun path =>
    (Value.failsOnly_followFrom reference [] scope.character path).bind fun _ => .ok _

theorem failsOnly_scopedPath (part? : Option Value) (missing : Unresolved) (text : Text) :
    FailsOnly Fault.isUnresolved (scopedPath part? missing reference text) := by
  unfold scopedPath
  split
  · exact .error rfl
  · exact (Path.failsOnly_read reference text).bind fun path =>
      Value.failsOnly_followFrom reference [] _ path

theorem failsOnly_plain (text : Text) :
    FailsOnly Fault.isUnresolved (plain book scope text) := by
  unfold plain
  split
  · exact failsOnly_characterPath book scope _ _
  · exact failsOnly_characterPath book scope _ _

theorem failsOnly_prefixed (text : Text) :
    FailsOnly Fault.isUnresolved (prefixed book scope text) := by
  unfold prefixed
  dsimp only
  split
  · exact failsOnly_ruleData book _ _
  · split
    · exact failsOnly_scopedPath _ _ _ _
    · split
      · exact failsOnly_scopedPath _ _ _ _
      · split
        · exact failsOnly_characterPath book scope _ _
        · split
          · split
            · exact .ok _
            · exact .error rfl
          · exact failsOnly_plain book scope text

/-- Looking up a reference fails only with an unresolved reference. -/
theorem failsOnly_resolve (text : Text) :
    FailsOnly Fault.isUnresolved (resolve book scope text) := by
  unfold resolve
  dsimp only
  split
  · exact .error rfl
  · split
    · exact failsOnly_scarStat book scope _ _
    · split
      · exact failsOnly_baseAttribute scope _ _
      · exact failsOnly_prefixed book scope _

end Reference

end CharacterSheet
