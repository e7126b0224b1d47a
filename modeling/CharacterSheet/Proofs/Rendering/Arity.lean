import CharacterSheet.Pattern.Linear
import CharacterSheet.Proofs.Handler.Orderly
import CharacterSheet.Proofs.Notation.Limit
import CharacterSheet.Proofs.Rendering.Steps

/-!
# Arguments that a handler reads

The arguments of a call are counted once, before its handler runs, and the handler splits
the content again. Where the count is accepted, the split has every argument that the
handler cannot do without (`Arguments.least_le_of_accepts`), also if it only makes the
first cuts. So a tame handler never comes to the fault that it has for a missing argument;
if a call fails for want of arguments, it was one in a text that the call expands
(`Run.exists_refused`). Where the count is not accepted, nothing is run.
-/

namespace CharacterSheet

namespace Arguments

/-- A content that a handler accepts has the arguments that the handler needs. -/
theorem least_le_of_accepts
    {handler : Handler}
    {content : Text}
    (accepted : handler.accepts (count content) = true) :
    handler.least ≤ (ofContent content).length := by
  have counted : handler.least ≤ count content :=
    of_decide_eq_true (Bool.and_eq_true_iff.1 accepted).1
  unfold count at counted
  split at counted
  · exact Nat.le_trans counted (Nat.zero_le _)
  · exact counted

/-- A limit on the arguments is the only reason for a content to give fewer. -/
theorem length_splitAtMost
    (content : Text)
    {limit : Nat}
    (positive : 0 < limit) :
    (splitAtMost ',' limit content).length = min limit (ofContent content).length := by
  obtain ⟨last, taken, -⟩ := pieces_limited ',' (limit - 1) content
  have proper := List.length_pos_iff.2 (pieces_ne_nil ',' content.length .start content)
  rw [splitAtMost, ofContent, split, List.length_map, List.length_map, taken, List.length_append,
    List.length_take, List.length_singleton]
  omega

end Arguments

/-- If a tame script that has its arguments fails for want of arguments, then with the fault
of a text that it asks to expand. -/
theorem Run.exists_refused
    {engine : Engine}
    {kept : Text → Prop}
    {script : Script Text}
    {journal after : Journal}
    {spans : Nat}
    {fault : Fault}
    (tame : script.Tame true kept)
    (run : Run engine (.script script) journal spans (.error fault) after)
    (wants : fault.countsArguments = true) :
    ∃ inner text between,
      Reaches engine (.script script, journal) (.expand inner text, between) ∧
      ((engine.expand inner text).on between).1 = .error fault := by
  induction script generalizing journal spans with
  | done => cases run
  | fail =>
      cases run
      rw [Fault.countsArguments_of_mayArise tame] at wants
      cases wants
  | expand inner text next inductionHypothesis =>
      cases run with
      | @expandRequest _ _ _ _ _ answer _ _ between _ answered rest =>
          have onward (tame : (next answer).Tame true kept) :
              ∃ deeper passage later,
                Reaches engine (.script (.expand inner text next), journal)
                  (.expand deeper passage, later) ∧
                ((engine.expand deeper passage).on later).1 = .error fault := by
            obtain ⟨deeper, passage, later, reached, refused⟩ := inductionHypothesis _ tame rest
            exact ⟨deeper, passage, later, .head (.expanded answered) reached, refused⟩
          cases answer with
          | ok shown => exact onward (tame.1 shown)
          | error refusal =>
              rcases tame.2 refusal with rethrows | ⟨-, goesOn⟩
              · rw [rethrows] at rest
                cases rest
                have performed : Performs engine (engine.expand inner text)
                    (.expand inner text) journal := Performs.expand inner text journal
                exact ⟨inner, text, journal, .single .expansion,
                  congrArg Prod.fst (performed.on_eq answered)⟩
              · exact onward goesOn
  | render | report => exact tame.elim
  | draw next inductionHypothesis =>
      cases run with
      | drawRequest drawn rest =>
          obtain ⟨inner, text, between, reached, refused⟩ := inductionHypothesis _ (tame _) rest
          exact ⟨inner, text, between, .head (.drawn drawn) reached, refused⟩
  | tooltip html source next inductionHypothesis =>
      cases run with
      | tooltipRequest kept rest =>
          obtain ⟨inner, text, between, reached, refused⟩ :=
            inductionHypothesis _ (tame.2 _) rest
          exact ⟨inner, text, between, .head (.registered kept) reached, refused⟩

namespace Engine

variable (engine : Engine)

/-- The script of a call to a tame handler that accepts the arguments is tame with enough of
them. -/
theorem tame_callScript
    {kept : Text → Prop}
    {name : String}
    {content : Text}
    {handler : Handler}
    (found : engine.registry.find? name = some handler)
    (tame : handler.Tame kept)
    (accepted : handler.accepts (Arguments.count content) = true)
    (scope : Scope) :
    (engine.callScript scope name content).Tame true kept := by
  have enough : handler.hasEnough content = true :=
    decide_eq_true (Arguments.least_le_of_accepts accepted)
  have own := tame engine.setting scope content
  rw [enough] at own
  unfold callScript
  rw [found]
  dsimp only
  rw [if_pos accepted]
  exact own.map resultText

/-- A call whose number of arguments is not accepted asks for nothing and fails. -/
theorem callScript_of_not_accepted
    {scope : Scope}
    {name : String}
    {content : Text}
    {handler : Handler}
    (found : engine.registry.find? name = some handler)
    (rejected : handler.accepts (Arguments.count content) = false) :
    engine.callScript scope name content =
      .fail (.misused handler.name
        (.argumentCount handler.least handler.most? (Arguments.count content))) := by
  unfold callScript
  rw [found]
  dsimp only
  rw [if_neg (Bool.eq_false_iff.1 rejected)]

/-- A call to a built-in handler whose number of arguments is accepted has every argument
that the handler needs: the handler finds it whether it makes all cuts or only the first
ones, and it never fails for want of one. If the call fails for want of arguments at all,
then in a text that it comes to expand. A call whose number of arguments is not accepted
fails for that reason and leaves the journal as it was: the handler is not run, and there
are no new identifiers, tooltips or reports. -/
theorem dispatch_finds_arguments
    (scope : Scope)
    (content : Text)
    {name : String}
    {handler : Handler}
    (found : engine.registry.find? name = some handler)
    (builtin : handler ∈ Handler.builtin) :
    let count := Arguments.count content
    let called := (engine.dispatch scope name content).on
    (handler.accepts count = true →
      (∀ position < handler.least,
        ∃ argument, (Arguments.ofContent content)[position]? = some argument) ∧
      (∀ limit, 0 < limit → ∀ position < min limit handler.least,
        ∃ argument, (Arguments.splitAtMost ',' limit content)[position]? = some argument) ∧
      ∀ journal fault,
        (called journal).1 = .error fault → fault.countsArguments = true →
          ∃ inner text between,
            Reaches engine (.script (engine.callScript scope name content), journal)
              (.expand inner text, between) ∧
            ((engine.expand inner text).on between).1 = .error fault) ∧
    (handler.accepts count = false →
      ∀ journal, called journal =
        (.error (.misused handler.name (.argumentCount handler.least handler.most? count)),
          journal)) := by
  intro count called
  constructor
  · intro accepted
    have enough := Arguments.least_le_of_accepts accepted
    refine ⟨fun position needed => ?_, fun limit positive position needed => ?_,
      fun journal fault failed wants => ?_⟩
    · exact ⟨_, List.getElem?_eq_getElem (Nat.lt_of_lt_of_le needed enough)⟩
    · have cut := Arguments.length_splitAtMost content positive
      exact ⟨_, List.getElem?_eq_getElem (by omega)⟩
    · obtain ⟨spans, run⟩ : Performs engine (engine.dispatch scope name content)
          (.script (engine.callScript scope name content)) journal :=
        Performs.dispatch scope name content journal
      change Run engine _ journal spans (called journal).1 _ at run
      rw [failed] at run
      have tame := Handler.tame_builtin handler builtin
      exact run.exists_refused (engine.tame_callScript found tame accepted scope) wants
  · intro rejected journal
    change (engine.dispatchWith _ scope name content).on journal = _
    rw [engine.dispatchWith_eq_run_callScript, engine.callScript_of_not_accepted found rejected]
    rfl

/-- A comma in quotes and one in a nested span cut nothing off: two arguments are accepted
where there are four pieces between commas, and a content that is quoted as a whole is
rejected. -/
theorem dispatch_finds_arguments_of_quotes :
    let engine : Engine :=
      { config := {}
        registry := ⟨[("IFTRUE", .ifTrue)]⟩
        rules := ⟨[]⟩
        patterns := .linear
        words := .counting 0 }
    let scope : Scope := { character := .object [] }
    let content : Text := "'a, b', \x7b\x7bMAX:1,2\x7d\x7d".toList
    let quoted : Text := "'a, b'".toList
    engine.registry.find? "IfTrue" = some .ifTrue ∧
      Handler.ifTrue ∈ Handler.builtin ∧
      (∃ argument, (Arguments.ofContent content)[1]? = some argument) ∧
      ∀ journal, (engine.dispatch scope "IfTrue" quoted).on journal =
        (.error (.misused "IFTRUE" (.argumentCount 2 (some 3) 1)), journal) := by
  intro engine scope content quoted
  have found : engine.registry.find? "IfTrue" = some .ifTrue := by
    have key : Registry.nameKey "IfTrue" = "IFTRUE" := by decide
    rw [Registry.find?, key]
    exact List.lookup_cons_self
  have builtin : Handler.ifTrue ∈ Handler.builtin := by simp [Handler.builtin]
  obtain ⟨two, one⟩ : Arguments.count content = 2 ∧ Arguments.count quoted = 1 := by
    decide +kernel
  have accepted : Handler.ifTrue.accepts (Arguments.count content) = true := by
    rw [two]
    rfl
  have rejected : Handler.ifTrue.accepts (Arguments.count quoted) = false := by
    rw [one]
    rfl
  obtain ⟨finds, -⟩ := engine.dispatch_finds_arguments scope content found builtin
  obtain ⟨-, refuses⟩ := engine.dispatch_finds_arguments scope quoted found builtin
  obtain ⟨positions, -⟩ := finds accepted
  have refused := refuses rejected
  rw [one] at refused
  exact ⟨found, builtin, positions 1 (by decide), refused⟩

end Engine
end CharacterSheet
