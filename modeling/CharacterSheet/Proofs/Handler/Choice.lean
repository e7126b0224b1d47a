import CharacterSheet.Handler.Conditional
import CharacterSheet.Proofs.Handler.Script
import CharacterSheet.Proofs.Notation.Content

/-!
# Choices of conditional handlers

A conditional handler first decides which of its arguments it shows, and then shows that one
alone (`Conditional.run_eq_output`). The decision is a script for the position of the argument,
and it never looks at a branch (`Conditional.choice_set_of_isBranch`). Two conditionals that
differ in the sense of their test differ in the order of their branches
(`Conditional.output_ifFalse`, `Conditional.output_ifNotIn`).
-/

namespace CharacterSheet

namespace Arguments

/-- Where there are several arguments they are all counted. -/
theorem count_eq_length
    {content : Text}
    (several : 2 ≤ (ofContent content).length) :
    count content = (ofContent content).length := by
  have comma : ',' ∈ content := by
    by_contra absent
    have single : (ofContent content).length = 1 := by
      change ((pieces ',' content.length .start content).map Text.trim).length = 1
      rw [List.length_map, length_pieces absent]
    omega
  have proper : ¬ (Text.trim content).isEmpty = true := fun blank =>
    Text.trim_ne_nil comma (by decide) (List.isEmpty_iff.1 blank)
  rw [count, if_neg proper]

end Arguments

/-- A handler takes a number of arguments that is in its range. -/
theorem Handler.accepts_of_range
    {handler : Handler}
    {count : Nat}
    (enough : handler.least ≤ count)
    (few : ∀ most ∈ handler.most?, count ≤ most) :
    handler.accepts count = true := by
  unfold accepts
  rw [decide_eq_true enough, Bool.true_and]
  cases range : handler.most? with
  | none => rfl
  | some most => exact decide_eq_true (few most range)

/-- The handlers that show one of their arguments. -/
inductive Conditional
  | ifTrue
  | ifFalse
  | ifNa
  | ifIn
  | ifNotIn
  | switch
  deriving DecidableEq, Repr

namespace Conditional

/-- The handler itself. -/
def handler : Conditional → Handler
  | .ifTrue => Handler.ifTrue
  | .ifFalse => Handler.ifFalse
  | .ifNa => Handler.ifNa
  | .ifIn => Handler.ifIn
  | .ifNotIn => Handler.ifNotIn
  | .switch => Handler.switch

/-- The arguments that a handler may show, of so many: what stands behind the test, and of the
cases of a switch the outputs and a last argument without a partner. -/
def IsBranch (count position : Nat) : Conditional → Prop
  | .ifTrue | .ifFalse | .ifNa => 1 ≤ position
  | .ifIn | .ifNotIn => 2 ≤ position
  | .switch => 1 ≤ position ∧ (position % 2 = 0 ∨ position + 1 = count)

/-- What is tested is no branch. -/
theorem IsBranch.pos
    {conditional : Conditional}
    {count position : Nat}
    (isBranch : conditional.IsBranch count position) :
    0 < position := by
  cases conditional with
  | ifTrue | ifFalse | ifNa => exact isBranch
  | ifIn | ifNotIn => exact Nat.lt_of_succ_lt isBranch
  | switch => exact isBranch.1

/-- The position of the first of two branches, or of the second one if it is there. -/
def branchPosition (count first : Nat) (taken : Bool) : Option Nat :=
  if taken then some first else if first + 1 < count then some (first + 1) else none

section

variable (setting : Setting) (scope : Scope)

/-- The position of the output of the first case that equals the subject, or of the default. The
cases stand from the given position on. -/
def firstMatch (subject : Value) : (position : Nat) → (cases : List Text) → Script (Option Nat)
  | _, [] => pure none
  | position, [_] => pure (some position)
  | position, candidate :: _ :: rest => do
    let value ← Argument.valueOrWord setting scope candidate
    if Value.looselyEqual subject value.ratingView then pure (some (position + 1))
    else firstMatch subject (position + 2) rest

/-- The position of the argument that a handler shows. -/
def choice (arguments : List Text) : Conditional → Script (Option Nat)
  | .ifTrue =>
    branchPosition arguments.length 1 <$> Argument.condition setting scope (arguments.getD 0 [])
  | .ifFalse =>
    (fun holds => branchPosition arguments.length 1 (!holds)) <$>
      Argument.condition setting scope (arguments.getD 0 [])
  | .ifNa =>
    branchPosition arguments.length 1 <$> Handler.isMissing setting scope (arguments.getD 0 [])
  | .ifIn =>
    branchPosition arguments.length 2 <$>
      Handler.isMember setting scope (arguments.getD 0 []) (arguments.getD 1 [])
  | .ifNotIn =>
    (fun found => branchPosition arguments.length 2 (!found)) <$>
      Handler.isMember setting scope (arguments.getD 0 []) (arguments.getD 1 [])
  | .switch => do
    let subject ← Script.orIfUnresolved
      (Value.ratingView <$> Argument.value setting scope (arguments.getD 0 [])) .null
    firstMatch setting scope subject 1 arguments.tail

/-- The text of the argument at a position, or none. -/
def shown (arguments : List Text) : Option Nat → Script Text
  | some position => Argument.text scope (arguments.getD position [])
  | none => pure []

/-- What a handler comes to: the text of the argument that it decides for. -/
def output (conditional : Conditional) (arguments : List Text) : Script Text := do
  let chosen ← conditional.choice setting scope arguments
  shown scope arguments chosen

/-- Only the argument that is shown matters. -/
theorem shown_set_of_ne
    {position : Nat}
    {chosen : Option Nat}
    (other : chosen ≠ some position)
    (arguments : List Text)
    (replaced : Text) :
    shown scope (arguments.set position replaced) chosen = shown scope arguments chosen := by
  cases chosen with
  | none => rfl
  | some chosen =>
      have distinct : position ≠ chosen := fun same => other (congrArg some same.symm)
      simp only [shown, List.getD_eq_getElem?_getD, List.getElem?_set_ne distinct]

/-- The branch that is taken, by its position. -/
theorem branch_eq_shown
    (arguments : List Text)
    (first : Nat)
    (taken : Bool) :
    Handler.branch scope taken (arguments.getD first []) (arguments.drop (first + 1)).head? =
      Value.ofText <$> shown scope arguments (branchPosition arguments.length first taken) := by
  unfold Handler.branch branchPosition
  cases taken with
  | true => rfl
  | false =>
      by_cases more : first + 1 < arguments.length
      · simp [List.head?_drop, more, shown]
      · simp [List.head?_drop, more, shown]

/-- Either branch stands behind the test. -/
theorem first_le_of_branchPosition
    {count first position : Nat}
    {taken : Bool}
    (found : branchPosition count first taken = some position) :
    first ≤ position := by
  unfold branchPosition at found
  grind

/-- The first case is shown by its position. -/
theorem firstCase_eq_shown
    (subject : Value)
    (before cases : List Text) :
    Handler.firstCase setting scope subject cases =
      firstMatch setting scope subject before.length cases >>= shown scope (before ++ cases) := by
  induction cases using Handler.firstCase.induct generalizing before with
  | case1 => rfl
  | case2 fallback =>
      change _ = shown scope (before ++ [fallback]) (some before.length)
      simp [Handler.firstCase, shown]
  | case3 candidate output rest inductionHypothesis =>
      have later := inductionHypothesis (before ++ [candidate, output])
      simp only [List.length_append, List.length_cons, List.length_nil, List.append_assoc,
        List.cons_append, List.nil_append] at later
      rw [Handler.firstCase, firstMatch, bind_assoc]
      congr
      funext value
      by_cases equal : Value.looselyEqual subject value.ratingView = true
      · rw [if_pos equal, if_pos equal]
        change _ = shown scope (before ++ candidate :: output :: rest) (some (before.length + 1))
        simp [shown]
      · rw [if_neg equal, if_neg equal]
        exact later

/-- A handler that tests its first argument shows the second one or the third one. -/
theorem testing_run
    (name : String)
    (test : Setting → Scope → Text → Script Bool)
    {content : Text}
    (enough : 2 ≤ (Arguments.ofContent content).length) :
    (Handler.testing name test).run setting scope content =
      (do
        let taken ← test setting scope ((Arguments.ofContent content).getD 0 [])
        Value.ofText <$> shown scope (Arguments.ofContent content)
          (branchPosition (Arguments.ofContent content).length 1 taken)) := by
  unfold Handler.testing
  dsimp only
  generalize Arguments.ofContent content = arguments at enough ⊢
  match arguments, enough with
  | subject :: yes :: rest, _ =>
      exact bind_congr fun taken => branch_eq_shown scope (subject :: yes :: rest) 1 taken

/-- A handler that looks its first argument up in the second one shows the third one or the
fourth one. -/
theorem searching_run
    (name : String)
    (wanted : Bool)
    {content : Text}
    (enough : 3 ≤ (Arguments.ofContent content).length) :
    (Handler.searching name wanted).run setting scope content =
      (do
        let found ← Handler.isMember setting scope ((Arguments.ofContent content).getD 0 [])
          ((Arguments.ofContent content).getD 1 [])
        Value.ofText <$> shown scope (Arguments.ofContent content)
          (branchPosition (Arguments.ofContent content).length 2 (found == wanted))) := by
  unfold Handler.searching
  dsimp only
  generalize Arguments.ofContent content = arguments at enough ⊢
  match arguments, enough with
  | needle :: haystack :: yes :: rest, _ =>
      exact bind_congr fun found =>
        branch_eq_shown scope (needle :: haystack :: yes :: rest) 2 (found == wanted)

/-- A conditional that gets enough arguments decides which one to show, and shows it. -/
theorem run_eq_output
    (conditional : Conditional)
    {content : Text}
    (enough : conditional.handler.least ≤ (Arguments.ofContent content).length) :
    conditional.handler.run setting scope content =
      Value.ofText <$> conditional.output setting scope (Arguments.ofContent content) := by
  rw [output, map_bind]
  cases conditional with
  | ifTrue | ifNa =>
      simp only [choice, bind_map_left]
      exact testing_run setting scope _ _ enough
  | ifFalse =>
      simp only [choice, bind_map_left]
      refine (testing_run setting scope _ _ enough).trans ?_
      rw [bind_map_left]
  | ifIn =>
      simp only [choice, bind_map_left]
      refine (searching_run setting scope _ _ enough).trans ?_
      simp only [beq_true]
  | ifNotIn =>
      simp only [choice, bind_map_left]
      refine (searching_run setting scope _ _ enough).trans ?_
      simp only [beq_false]
  | switch =>
      change Handler.switch.run setting scope content = _
      unfold Handler.switch choice
      dsimp only
      generalize Arguments.ofContent content = arguments at enough ⊢
      match arguments, enough with
      | subject :: cases, _ =>
          simp only [bind_assoc, List.getD_cons_zero, List.tail_cons]
          congr
          funext value
          rw [firstCase_eq_shown setting scope value [subject] cases, map_bind]
          rfl

/-- The search goes on behind cases of which none matches. -/
theorem firstMatch_append
    (subject : Value)
    {earlier : List Text}
    (paired : earlier.length % 2 = 0)
    (start : Nat)
    (cases : List Text) :
    firstMatch setting scope subject start (earlier ++ cases) =
      firstMatch setting scope subject start earlier >>= fun matched? =>
        match matched? with
        | some position => pure (some position)
        | none => firstMatch setting scope subject (start + earlier.length) cases := by
  induction start, earlier using firstMatch.induct with
  | case1 => rfl
  | case2 start fallback => cases paired
  | case3 start candidate output rest inductionHypothesis =>
      have later := inductionHypothesis (by
        simp only [List.length_cons] at paired
        omega)
      have position : start + (candidate :: output :: rest).length = start + 2 + rest.length := by
        simp only [List.length_cons]
        omega
      rw [List.cons_append, List.cons_append, firstMatch, firstMatch, bind_assoc, position]
      refine bind_congr fun value => ?_
      by_cases equal : Value.looselyEqual subject value.ratingView = true
      · rw [if_pos equal, if_pos equal, pure_bind]
      · rw [if_neg equal, if_neg equal, later]

/-- The opposite of a test, with its branches the other way round. -/
theorem output_ifFalse (condition yes no : Text) :
    ifFalse.output setting scope [condition, yes, no] =
      ifTrue.output setting scope [condition, no, yes] := by
  simp only [output, choice, bind_map_left]
  refine bind_congr fun holds => ?_
  cases holds <;> rfl

/-- The opposite of a membership, with its branches the other way round. -/
theorem output_ifNotIn (needle haystack yes no : Text) :
    ifNotIn.output setting scope [needle, haystack, yes, no] =
      ifIn.output setting scope [needle, haystack, no, yes] := by
  simp only [output, choice, bind_map_left]
  refine bind_congr fun found => ?_
  cases found <;> rfl

/-- The search for a case looks at no output and not at the default. -/
theorem firstMatch_set_of_output
    (subject : Value)
    {cases : List Text}
    {position : Nat}
    (output : position % 2 = 1 ∨ position + 1 = cases.length)
    (replaced : Text)
    (start : Nat) :
    firstMatch setting scope subject start (cases.set position replaced) =
      firstMatch setting scope subject start cases := by
  induction start, cases using firstMatch.induct generalizing position with
  | case1 => rfl
  | case2 start fallback => cases position <;> rfl
  | case3 start candidate shown rest inductionHypothesis =>
      match position with
      | 0 => simp at output
      | 1 => rfl
      | position + 2 =>
          have later : firstMatch setting scope subject (start + 2) (rest.set position replaced) =
              firstMatch setting scope subject (start + 2) rest :=
            inductionHypothesis (by
              simp only [List.length_cons] at output
              omega)
          simp only [List.set_cons_succ, firstMatch, later]

/-- The decision looks at no branch. -/
theorem choice_set_of_isBranch
    (conditional : Conditional)
    {arguments : List Text}
    {position : Nat}
    (isBranch : conditional.IsBranch arguments.length position)
    (replaced : Text) :
    conditional.choice setting scope (arguments.set position replaced) =
      conditional.choice setting scope arguments := by
  have kept {index : Nat} (other : index < position) :
      (arguments.set position replaced).getD index [] = arguments.getD index [] := by
    simp only [List.getD_eq_getElem?_getD, List.getElem?_set_ne (Nat.ne_of_gt other)]
  cases conditional with
  | ifTrue | ifFalse | ifNa =>
      simp only [choice, List.length_set, kept isBranch]
  | ifIn | ifNotIn =>
      simp only [choice, List.length_set, kept isBranch, kept (Nat.lt_of_succ_lt isBranch)]
  | switch =>
      obtain ⟨behind, output⟩ := isBranch
      obtain ⟨position, rfl⟩ := Nat.exists_eq_add_of_le' behind
      simp only [choice, kept (Nat.succ_pos position)]
      refine bind_congr fun subject => ?_
      cases arguments with
      | nil => rfl
      | cons first cases =>
          refine firstMatch_set_of_output setting scope subject ?_ replaced 1
          rw [List.length_cons] at output
          omega

end

end Conditional

end CharacterSheet
