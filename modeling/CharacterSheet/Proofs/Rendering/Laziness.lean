import CharacterSheet.Handler.Builtin
import CharacterSheet.Pattern.Linear
import CharacterSheet.Proofs.Handler.Choice
import CharacterSheet.Proofs.Rendering.Run

/-!
# Branches that are not taken

A conditional shows the argument that its choice comes to, and no other one is ever expanded. So
a branch that is not taken may be any text, and so may all that stands behind the first case of a
switch that matches: the outcome of the call is the same, and so is the whole journal, with its
reports, its identifiers and its count (`Conditional.dual_and_lazy`).
-/

namespace CharacterSheet
namespace Conditional

section

variable {setting : Setting} {scope : Scope} {answers : Answers} {subject : Value}

/-- A search comes to a position that it has looked at. -/
theorem start_le_of_firstMatch
    {start taken : Nat}
    {cases : List Text}
    {journal after : Journal}
    (matched : ((firstMatch setting scope subject start cases).run answers).on journal =
      (.ok (some taken), after)) :
    start ≤ taken := by
  induction start, cases using firstMatch.induct generalizing journal with
  | case1 => cases matched
  | case2 start fallback =>
      cases matched
      exact Nat.le_refl _
  | case3 start candidate output rest inductionHypothesis =>
      rw [firstMatch, Script.on_run_bind_eq_ok_iff] at matched
      obtain ⟨value, between, -, goesOn⟩ := matched
      by_cases equal : Value.looselyEqual subject value.ratingView = true
      · rw [if_pos equal] at goesOn
        cases goesOn
        exact Nat.le_succ _
      · rw [if_neg equal] at goesOn
        exact Nat.le_trans (Nat.le_add_right start 2) (inductionHypothesis goesOn)

/-- The search for a case does not look behind the output that it comes to. -/
theorem on_firstMatch_set_of_behind
    {start position taken : Nat}
    {cases : List Text}
    {journal after : Journal}
    (matched : ((firstMatch setting scope subject start cases).run answers).on journal =
      (.ok (some taken), after))
    (behind : taken < start + position)
    (replaced : Text) :
    ((firstMatch setting scope subject start (cases.set position replaced)).run answers).on
      journal = (.ok (some taken), after) := by
  induction start, cases using firstMatch.induct generalizing position journal with
  | case1 => exact matched
  | case2 start fallback =>
      cases position with
      | zero =>
          cases matched
          exact absurd behind (Nat.lt_irrefl _)
      | succ position => exact matched
  | case3 start candidate output rest inductionHypothesis =>
      rw [firstMatch, Script.on_run_bind_eq_ok_iff] at matched
      obtain ⟨value, between, evaluated, goesOn⟩ := matched
      by_cases equal : Value.looselyEqual subject value.ratingView = true
      · rw [if_pos equal] at goesOn
        cases goesOn
        -- what is replaced stands behind the output of this case
        obtain ⟨position, rfl⟩ := Nat.exists_eq_add_of_le' (show 2 ≤ position by omega)
        rw [List.set_cons_succ, List.set_cons_succ, firstMatch, Script.on_run_bind_eq_ok_iff]
        exact ⟨value, _, evaluated, by rw [if_pos equal]; rfl⟩
      · rw [if_neg equal] at goesOn
        have reached := start_le_of_firstMatch goesOn
        obtain ⟨position, rfl⟩ := Nat.exists_eq_add_of_le' (show 2 ≤ position by omega)
        have later : ((firstMatch setting scope subject (start + 2)
            (rest.set position replaced)).run answers).on between = (.ok (some taken), after) :=
          inductionHypothesis goesOn (by omega)
        rw [List.set_cons_succ, List.set_cons_succ, firstMatch, Script.on_run_bind_eq_ok_iff]
        exact ⟨value, between, evaluated, by rw [if_neg equal]; exact later⟩

/-- A decision between two branches comes to one of them. -/
theorem first_le_of_choice
    {script : Script Bool}
    (sense : Bool → Bool)
    {count first taken : Nat}
    {journal after : Journal}
    (chosen : (((fun holds => branchPosition count first (sense holds)) <$> script).run
      answers).on journal = (.ok (some taken), after)) :
    first ≤ taken := by
  rw [Script.run_map, Action.on_map_eq_ok_iff] at chosen
  obtain ⟨holds, -, found⟩ := chosen
  exact first_le_of_branchPosition found

/-- No decision looks behind the argument that it comes to. -/
theorem on_choice_set_of_behind
    (conditional : Conditional)
    {arguments : List Text}
    {position taken : Nat}
    {journal after : Journal}
    (chosen : ((conditional.choice setting scope arguments).run answers).on journal =
      (.ok (some taken), after))
    (behind : taken < position)
    (replaced : Text) :
    ((conditional.choice setting scope (arguments.set position replaced)).run answers).on
      journal = (.ok (some taken), after) := by
  cases conditional with
  | ifTrue | ifFalse | ifNa =>
      have isBranch : 1 ≤ position := Nat.one_le_of_lt behind
      rw [choice_set_of_isBranch setting scope _ (by exact isBranch)]
      exact chosen
  | ifIn =>
      have isBranch : 2 ≤ position :=
        Nat.le_trans (first_le_of_choice id chosen) (Nat.le_of_lt behind)
      rw [choice_set_of_isBranch setting scope _ (by exact isBranch)]
      exact chosen
  | ifNotIn =>
      have isBranch : 2 ≤ position :=
        Nat.le_trans (first_le_of_choice not chosen) (Nat.le_of_lt behind)
      rw [choice_set_of_isBranch setting scope _ (by exact isBranch)]
      exact chosen
  | switch =>
      obtain ⟨position, rfl⟩ := Nat.exists_eq_add_of_le' (Nat.one_le_of_lt behind)
      cases arguments with
      | nil => exact chosen
      | cons first cases =>
          rw [choice, Script.on_run_bind_eq_ok_iff] at chosen ⊢
          obtain ⟨subject, between, evaluated, matched⟩ := chosen
          refine ⟨subject, between, evaluated, ?_⟩
          exact on_firstMatch_set_of_behind matched (by omega) replaced

end

/-- Every conditional is built in under its own name. -/
theorem find?_builtin (conditional : Conditional) :
    Registry.builtin.find? conditional.handler.name = some conditional.handler := by
  cases conditional <;> rfl

/-- An argument that a conditional does not show, where its decision came to the given outcome: a
branch that was not chosen, or what stands behind the one that was. -/
def Untaken
    (conditional : Conditional)
    (count : Nat)
    (chosen : Except Fault (Option Nat))
    (position : Nat) : Prop :=
  (conditional.IsBranch count position ∧ chosen ≠ .ok (some position)) ∨
    ∃ taken, chosen = .ok (some taken) ∧ taken < position

theorem Untaken.pos
    {conditional : Conditional}
    {count position : Nat}
    {chosen : Except Fault (Option Nat)}
    (untaken : conditional.Untaken count chosen position) :
    0 < position := by
  rcases untaken with ⟨isBranch, -⟩ | ⟨taken, -, behind⟩
  · exact isBranch.pos
  · exact Nat.zero_lt_of_lt behind

section

variable
  {engine : Engine}
  {answers : Answers}
  {scope : Scope}
  {conditional : Conditional}
  {content other : Text}

/-- An argument that is not shown is not what the decision came to, and the decision is the same
for any other text in its place. -/
theorem Untaken.on_choice
    {setting : Setting}
    {arguments : List Text}
    {position : Nat}
    {journal : Journal}
    (untaken : conditional.Untaken arguments.length
      (((conditional.choice setting scope arguments).run answers).on journal).1 position)
    (replaced : Text) :
    (((conditional.choice setting scope arguments).run answers).on journal).1 ≠
        .ok (some position) ∧
      ((conditional.choice setting scope (arguments.set position replaced)).run answers).on
          journal =
        ((conditional.choice setting scope arguments).run answers).on journal := by
  rcases untaken with ⟨isBranch, unchosen⟩ | ⟨taken, chosen, behind⟩
  · exact ⟨unchosen, by rw [choice_set_of_isBranch setting scope conditional isBranch replaced]⟩
  · have came : ((conditional.choice setting scope arguments).run answers).on journal =
        (.ok (some taken), (((conditional.choice setting scope arguments).run answers).on
          journal).2) := Prod.ext chosen rfl
    refine ⟨?_, ?_⟩
    · rw [chosen]
      intro same
      cases same
      exact Nat.lt_irrefl _ behind
    · rw [on_choice_set_of_behind conditional came behind replaced, ← came]

/-- A call of a conditional, with enough arguments and not too many, gives what the conditional
comes to. -/
theorem dispatchWith_eq_output
    (conditional : Conditional)
    (known : engine.registry.find? conditional.handler.name = some conditional.handler)
    (accepted : conditional.handler.accepts (Arguments.ofContent content).length = true) :
    engine.dispatchWith answers scope conditional.handler.name content =
      (conditional.output engine.setting scope (Arguments.ofContent content)).run answers := by
  have enough : conditional.handler.least ≤ (Arguments.ofContent content).length :=
    of_decide_eq_true (Bool.and_eq_true_iff.1 accepted).1
  have several : 2 ≤ conditional.handler.least := by
    cases conditional <;> decide
  have counted := Arguments.count_eq_length (Nat.le_trans several enough)
  have back (text : Text) : Engine.resultText (Value.ofText text) = text :=
    String.toList_ofList
  rw [Engine.dispatchWith_eq_run_callScript, Engine.callScript, known]
  dsimp only
  rw [counted, if_pos accepted, run_eq_output engine.setting scope conditional enough,
    Functor.map_map]
  simp only [back, id_map']

/-- A call does not depend on an argument that it does not show. -/
theorem on_dispatchWith_set_of_untaken
    {position : Nat}
    {replaced : Text}
    {journal : Journal}
    (known : engine.registry.find? conditional.handler.name = some conditional.handler)
    (present : position < (Arguments.ofContent content).length)
    (others : Arguments.ofContent other = (Arguments.ofContent content).set position replaced)
    (untaken : conditional.Untaken (Arguments.ofContent content).length
      (((conditional.choice engine.setting scope (Arguments.ofContent content)).run answers).on
        journal).1 position) :
    (engine.dispatchWith answers scope conditional.handler.name other).on journal =
      (engine.dispatchWith answers scope conditional.handler.name content).on journal := by
  have same : (Arguments.ofContent other).length = (Arguments.ofContent content).length := by
    rw [others, List.length_set]
  by_cases accepted : conditional.handler.accepts (Arguments.ofContent content).length = true
  · have runs (arguments : List Text) :
        (conditional.output engine.setting scope arguments).run answers =
          (conditional.choice engine.setting scope arguments).run answers >>= fun chosen =>
            (shown scope arguments chosen).run answers :=
      Script.run_bind answers _ _
    obtain ⟨unchosen, decided⟩ := untaken.on_choice replaced
    rw [dispatchWith_eq_output _ known accepted, dispatchWith_eq_output _ known (same ▸ accepted),
      runs, runs, Action.on_bind, Action.on_bind, others, decided]
    rcases came : ((conditional.choice engine.setting scope
      (Arguments.ofContent content)).run answers).on journal with ⟨fault | chosen, after⟩
    · rfl
    · rw [came] at unchosen
      have distinct : chosen ≠ some position := fun same => unchosen (congrArg Except.ok same)
      dsimp only
      rw [shown_set_of_ne scope distinct]
  · -- something stands in front of the argument, so both calls fail with the same count
    have several := Nat.lt_of_le_of_lt untaken.pos present
    have counted := Arguments.count_eq_length several
    have otherCounted := Arguments.count_eq_length (same.symm ▸ several)
    rw [Engine.dispatchWith_eq_run_callScript, Engine.dispatchWith_eq_run_callScript]
    unfold Engine.callScript
    rw [known]
    dsimp only
    rw [counted, otherCounted, same, if_neg accepted, if_neg accepted]

end

/-- Conditionals are dual and lazy, whatever answers their requests and whatever happened before.
`IFFALSE` is `IFTRUE` with the branches the other way round, and so is `IFNOTIN` for `IFIN`. What a
conditional comes to is the text of the argument that it decides for, and any other argument that
is a branch, or that stands behind the one decided for, may be replaced: with the same outcome,
and with the same journal. -/
theorem dual_and_lazy
    (engine : Engine)
    (answers : Answers)
    (scope : Scope)
    (known : ∀ conditional : Conditional,
      engine.registry.find? conditional.handler.name = some conditional.handler) :
    (∀ content other condition yes no,
      Arguments.ofContent content = [condition, yes, no] →
      Arguments.ofContent other = [condition, no, yes] →
        engine.dispatchWith answers scope "IFFALSE" content =
          engine.dispatchWith answers scope "IFTRUE" other) ∧
    (∀ content other needle haystack yes no,
      Arguments.ofContent content = [needle, haystack, yes, no] →
      Arguments.ofContent other = [needle, haystack, no, yes] →
        engine.dispatchWith answers scope "IFNOTIN" content =
          engine.dispatchWith answers scope "IFIN" other) ∧
    (∀ (conditional : Conditional) (content : Text),
      conditional.handler.accepts (Arguments.ofContent content).length = true →
        engine.dispatchWith answers scope conditional.handler.name content =
          (conditional.output engine.setting scope (Arguments.ofContent content)).run answers) ∧
    ∀ (conditional : Conditional) (content other replaced : Text) (position : Nat)
        (journal : Journal),
      position < (Arguments.ofContent content).length →
      Arguments.ofContent other = (Arguments.ofContent content).set position replaced →
      conditional.Untaken (Arguments.ofContent content).length
        (((conditional.choice engine.setting scope (Arguments.ofContent content)).run answers).on
          journal).1 position →
        (engine.dispatchWith answers scope conditional.handler.name other).on journal =
          (engine.dispatchWith answers scope conditional.handler.name content).on journal := by
  have gives (conditional : Conditional) (content : Text)
      (accepted : conditional.handler.accepts (Arguments.ofContent content).length = true) :
      engine.dispatchWith answers scope conditional.handler.name content =
        (conditional.output engine.setting scope (Arguments.ofContent content)).run answers :=
    dispatchWith_eq_output conditional (known conditional) accepted
  refine ⟨?_, ?_, gives, ?_⟩
  · intro content other condition yes no written swapped
    have left := gives .ifFalse content (by rw [written]; rfl)
    have right := gives .ifTrue other (by rw [swapped]; rfl)
    rw [written, output_ifFalse, ← swapped, ← right] at left
    exact left
  · intro content other needle haystack yes no written swapped
    have left := gives .ifNotIn content (by rw [written]; rfl)
    have right := gives .ifIn other (by rw [swapped]; rfl)
    rw [written, output_ifNotIn, ← swapped, ← right] at left
    exact left
  · exact fun conditional content other replaced position journal present others untaken =>
      on_dispatchWith_set_of_untaken (known conditional) present others untaken

/-- Of a switch that matches its first case neither the second output nor the default matters: that
they divide by zero is not noticed. -/
theorem dual_and_lazy_of_match :
    let engine : Engine :=
      { config := {}, registry := .builtin, rules := ⟨[]⟩, patterns := .linear,
        words := .counting 0 }
    let answers := engine.answersBy engine.expand
    let scope : Scope := { character := .object [] }
    (engine.dispatchWith answers scope "IFFALSE" "1,a,b".toList =
      engine.dispatchWith answers scope "IFTRUE" "1,b,a".toList) ∧
    (engine.dispatchWith answers scope "IFNOTIN" "a,'cat',b,c".toList =
      engine.dispatchWith answers scope "IFIN" "a,'cat',c,b".toList) ∧
    (engine.dispatchWith answers scope "SWITCH" "2,2,two,3,\x7b\x7bCALC:1/0\x7d\x7d".toList).on {} =
      (engine.dispatchWith answers scope "SWITCH" "2,2,two,3,three".toList).on {} := by
  intro engine answers scope
  obtain ⟨tests, memberships, -, lazy⟩ := dual_and_lazy engine answers scope find?_builtin
  refine ⟨?_, ?_, ?_⟩
  · exact tests _ _ "1".toList "a".toList "b".toList (by decide +kernel)
      (by decide +kernel)
  · exact memberships _ _ "a".toList "'cat'".toList "b".toList "c".toList (by decide +kernel)
      (by decide +kernel)
  · refine lazy .switch "2,2,two,3,three".toList _ "\x7b\x7bCALC:1/0\x7d\x7d".toList 4 {}
      (by decide +kernel) (by decide +kernel) ?_
    exact .inr ⟨2, by decide +kernel, by decide⟩

end Conditional
end CharacterSheet
