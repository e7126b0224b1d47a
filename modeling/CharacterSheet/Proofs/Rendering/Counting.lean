import CharacterSheet.Pattern.Linear
import CharacterSheet.Proofs.Rendering.Arity
import CharacterSheet.Proofs.Rendering.Cutoff
import CharacterSheet.Proofs.Rendering.History

/-!
# What earlier calls have counted

Only an outermost rendering starts the counter of spans anew. An expansion and a call by
name, which a renderer answers as well, go on from where the last call left it. What they
do does not depend on the counter as long as they stay within the limit: one level deeper,
where every job has a run for each value of the counter, a run from a fresh journal and one
after other calls are moved into each other (`Run.relocated`). So an earlier call takes away
room, and nothing else (`Engine.request_after_calls`).
-/

namespace CharacterSheet

/-- What a renderer can be asked for outside of any handler beside a rendering. -/
inductive Request
  | expand (scope : Scope) (text : Text)
  | dispatch (scope : Scope) (name : String) (content : Text)

/-- What a request is answered in. -/
def Request.scope : Request → Scope
  | .expand scope _ => scope
  | .dispatch scope _ _ => scope

namespace Journal

/-- Outside of every expansion, a journal is that of a fresh renderer with the same tooltips
and identifiers, with the spans and the reports so far added. -/
theorem deeper_of_fresh
    {journal : Journal}
    (outermost : journal.depth = 0) :
    ((({ placeholders := journal.placeholders } : Journal).deeper.moved
      0 journal.expansions 0).preceded journal.diagnostics) = journal.deeper := by
  simp [deeper, moved, preceded, outermost]

/-- With the spans so far taken away, only the reports are left of what went before. -/
theorem deeper_moved_back
    {journal : Journal}
    (outermost : journal.depth = 0) :
    journal.deeper.moved 0 0 journal.expansions =
      ({ placeholders := journal.placeholders } : Journal).deeper.preceded
        journal.diagnostics := by
  simp [deeper, moved, preceded, outermost]

end Journal

namespace Engine

variable (engine : Engine)

/-- Answers a request. -/
def request : Request → Action Text
  | .expand scope text => engine.expand scope text
  | .dispatch scope name content => engine.dispatch scope name content

/-- The job of a request. -/
def requestJob : Request → Job
  | .expand scope text => .expand scope text
  | .dispatch scope name content => .script (engine.callScript scope name content)

/-- Calls by name to built-in handlers are tame. -/
theorem exists_tame_callScript
    (builtin : engine.registry = .builtin)
    (scope : Scope)
    (name : String)
    (content : Text) :
    ∃ enough, (engine.callScript scope name content).Tame enough Framed := by
  have tame : ∀ entry ∈ engine.registry.entries, entry.2.Tame Framed := by
    rw [builtin]
    exact Registry.tame_builtin
  cases found : engine.registry.find? name with
  | none =>
      refine ⟨true, ?_⟩
      unfold callScript
      rw [found]
      rfl
  | some handler =>
      cases accepted : handler.accepts (Arguments.count content) with
      | true =>
          exact ⟨true,
            engine.tame_callScript found (Registry.holds_of_find? tame found) accepted scope⟩
      | false =>
          refine ⟨false, ?_⟩
          rw [engine.callScript_of_not_accepted found accepted]
          rfl

theorem orderly_requestJob
    (builtin : engine.registry = .builtin)
    (request : Request) :
    (engine.requestJob request).Orderly Framed := by
  cases request with
  | expand scope text => trivial
  | dispatch scope name content =>
      obtain ⟨_, tame⟩ := engine.exists_tame_callScript builtin scope name content
      exact tame.orderly

theorem staysUnder_requestJob
    (neutral : engine.registry.Neutral)
    (request : Request) :
    (engine.requestJob request).StaysUnder request.scope.policy := by
  cases request with
  | expand scope text => rfl
  | dispatch scope name content => exact engine.staysUnder_callScript neutral scope name content

end Engine

theorem Performs.request
    {engine : Engine}
    (request : Request)
    (journal : Journal) :
    Performs engine (engine.request request) (engine.requestJob request)
      journal := by
  cases request with
  | expand scope text => exact Performs.expand scope text journal
  | dispatch scope name content => exact Performs.dispatch scope name content journal

namespace Run

variable {engine : Engine} {spans : Nat} {outcome : Except Fault Text}
  {journal after : Journal}

/-- An expansion is the same one level deeper. -/
theorem deeper_of_expand
    {scope : Scope}
    {text : Text}
    (run : Run engine (.expand scope text) journal spans outcome after) :
    Run engine (.expand scope text) journal.deeper spans outcome after.deeper := by
  have moves : Run (engine.limited engine.config.maxExpansions) (.expand scope text)
      (journal.moved 1 0 0) spans outcome (after.moved 1 0 0) :=
    run.relocated_of_expand (fun _ _ => rfl) (Nat.zero_le _) (.inl ⟨rfl, rfl⟩)
  exact moves

/-- A script that asks for no rendering is the same one level deeper. -/
theorem deeper_of_script
    {enough : Bool}
    {kept : Text → Prop}
    {script : Script Text}
    (tame : script.Tame enough kept)
    (run : Run engine (.script script) journal spans outcome after) :
    Run engine (.script script) journal.deeper spans outcome after.deeper := by
  induction script generalizing journal spans with
  | done =>
      cases run
      exact .done
  | fail =>
      cases run
      exact .fail
  | expand scope text next inductionHypothesis =>
      cases run with
      | @expandRequest _ _ _ _ _ answer _ _ _ _ answered rest =>
          have further : (next answer).Tame enough kept ∨ ∃ fault, next answer = .fail fault := by
            cases answer with
            | ok text => exact .inl (tame.1 text)
            | error fault =>
                rcases tame.2 fault with rethrows | ⟨-, goesOn⟩
                · exact .inr ⟨fault, rethrows⟩
                · exact .inl goesOn
          refine .expandRequest answered.deeper_of_expand ?_
          rcases further with goesOn | ⟨fault, fails⟩
          · exact inductionHypothesis answer goesOn rest
          · rw [fails] at rest ⊢
            cases rest
            exact .fail
  | render | report => exact tame.elim
  | draw next inductionHypothesis =>
      cases run with
      | drawRequest drawn rest =>
          rw [engine.on_draw] at drawn
          cases drawn
          exact .drawRequest (engine.on_draw _) (inductionHypothesis _ (tame _) rest)
  | tooltip html source next inductionHypothesis =>
      cases run with
      | @tooltipRequest _ _ _ _ token _ _ between _ kept rest =>
          have moves : ((engine.limited engine.config.maxExpansions).registerTooltip html source).on
              (journal.moved 1 0 0) = (.ok token, between.moved 1 0 0) :=
            Engine.on_registerTooltip_moved kept
          exact .tooltipRequest moves (inductionHypothesis _ (tame.2 _) rest)

/-- A request is the same one level deeper. -/
theorem deeper_of_request
    (builtin : engine.registry = .builtin)
    {request : Request}
    (run : Run engine (engine.requestJob request) journal spans outcome after) :
    Run engine (engine.requestJob request) journal.deeper spans outcome after.deeper := by
  cases request with
  | expand scope text => exact run.deeper_of_expand
  | dispatch scope name content =>
      obtain ⟨_, tame⟩ := engine.exists_tame_callScript builtin scope name content
      exact run.deeper_of_script tame

end Run

namespace Engine

variable (engine : Engine)

/-- A request has a run one level deeper than it was made. -/
theorem exists_run_of_request
    (builtin : engine.registry = .builtin)
    (request : Request)
    (journal : Journal) :
    ∃ spans, Run engine (engine.requestJob request) journal.deeper spans
      ((engine.request request).on journal).1
      ((engine.request request).on journal).2.deeper := by
  obtain ⟨spans, run⟩ : Performs engine (engine.request request)
      (engine.requestJob request) journal := Performs.request request journal
  exact ⟨spans, run.deeper_of_request builtin⟩

variable {engine}

/-- A request that counts no more spans than there is room for gives what it gives on a
fresh journal. -/
theorem on_request_of_room
    (builtin : engine.registry = .builtin)
    (request : Request)
    {journal : Journal}
    (outermost : journal.depth = 0) :
    let alone := (engine.request request).on { placeholders := journal.placeholders }
    alone.2.expansions ≤ engine.config.maxExpansions - journal.expansions →
      (engine.request request).on journal =
        (alone.1, (alone.2.advanced 0 journal.expansions).preceded journal.diagnostics) := by
  intro alone fits
  obtain ⟨spans, aloneRun⟩ := engine.exists_run_of_request builtin request
    { placeholders := journal.placeholders }
  obtain ⟨_, run⟩ := engine.exists_run_of_request builtin request journal
  have same : engine.SameRoom engine.config.maxExpansions journal.expansions 0 0
      alone.2.expansions := by
    unfold SameRoom
    omega
  have moves : Run (engine.limited engine.config.maxExpansions) (engine.requestJob request)
      (Journal.moved 0 journal.expansions 0
        (Journal.deeper { placeholders := journal.placeholders })) spans
      alone.1 (alone.2.deeper.moved 0 journal.expansions 0) :=
    aloneRun.relocated (fun _ _ => rfl) (Nat.succ_pos _) (Nat.zero_le _) same
  have behind := moves.preceded journal.diagnostics
  rw [Journal.deeper_of_fresh outermost] at behind
  obtain ⟨-, sameOutcome, sameJournal⟩ := run.unique behind
  exact Prod.ext sameOutcome (congrArg Journal.shallower sameJournal)

/-- A request that stays within the limit, or counts nothing, counts as many spans on a fresh
journal. -/
theorem expansions_of_request
    (builtin : engine.registry = .builtin)
    (request : Request)
    {journal : Journal}
    (outermost : journal.depth = 0) :
    let alone := (engine.request request).on { placeholders := journal.placeholders }
    let later := (engine.request request).on journal
    later.2.expansions = journal.expansions ∨
        later.2.expansions ≤ engine.config.maxExpansions →
      alone.2.expansions = later.2.expansions - journal.expansions := by
  intro alone later room
  obtain ⟨_, aloneRun⟩ := engine.exists_run_of_request builtin request
    { placeholders := journal.placeholders }
  obtain ⟨spans, run⟩ := engine.exists_run_of_request builtin request journal
  have grows : journal.expansions + spans ≤ later.2.expansions :=
    (run.growth (Nat.succ_pos _)).expansions_le
  have same : engine.SameRoom engine.config.maxExpansions 0 journal.expansions
      journal.expansions later.2.expansions := by
    unfold SameRoom
    omega
  have moves : Run (engine.limited engine.config.maxExpansions) (engine.requestJob request)
      (journal.deeper.moved 0 0 journal.expansions) spans
      later.1 (later.2.deeper.moved 0 0 journal.expansions) :=
    run.relocated (fun _ _ => rfl) (Nat.succ_pos _) (Nat.le_refl _) same
  rw [Journal.deeper_moved_back outermost] at moves
  obtain ⟨-, -, sameJournal⟩ := (aloneRun.preceded journal.diagnostics).unique moves
  exact congrArg Journal.expansions sameJournal

/-- A strict request that counts more spans than it evaluates fails with the fault of the
limit. -/
theorem overrun_of_request
    (builtin : engine.registry = .builtin)
    (request : Request)
    (strict : request.scope.policy.strict = true)
    {journal : Journal} :
    let later := (engine.request request).on journal
    later.2.expansions ≠ journal.expansions →
      engine.config.maxExpansions < later.2.expansions →
        later.1 = .error engine.overrun := by
  intro later moved beyond
  obtain ⟨spans, run⟩ := engine.exists_run_of_request builtin request journal
  have grows : journal.expansions + spans ≤ later.2.expansions :=
    (run.growth (Nat.succ_pos _)).expansions_le
  have bound : spans ≤ engine.config.maxExpansions - journal.expansions :=
    run.spans_le (Nat.succ_pos _)
  have exceeded : journal.expansions + spans < later.2.expansions := by omega
  have handlers : engine.registry.Orderly Framed := builtin ▸ Registry.orderly_builtin
  have neutral : engine.registry.Neutral := builtin ▸ Registry.neutral_builtin
  exact (run.cutOff handlers neutral strict (Nat.succ_pos _)
    (engine.orderly_requestJob builtin request) (engine.staysUnder_requestJob neutral request)
    exceeded).1

variable (engine)

/-- An expansion or a call by name after any other calls, compared with the same request to
a renderer that has done nothing yet and goes on from the same tooltips and identifiers. If
that one counts no more spans than the calls have left of the limit, then both give the same
outcome, and the same journal with the spans and the reports of the calls added. If it
counts more, then after the calls the request goes beyond the limit, and a strict one fails
for that reason. -/
theorem request_after_calls
    (builtin : engine.registry = .builtin)
    (calls : List Call)
    (request : Request) :
    let journal := engine.journalAfter calls {}
    let later := (engine.request request).on journal
    let alone := (engine.request request).on { placeholders := journal.placeholders }
    let room := engine.config.maxExpansions - journal.expansions
    journal.depth = 0 ∧
      (alone.2.expansions ≤ room →
        later = (alone.1,
          (alone.2.advanced 0 journal.expansions).preceded journal.diagnostics)) ∧
      (room < alone.2.expansions →
        engine.config.maxExpansions < later.2.expansions ∧
          (request.scope.policy.strict = true → later.1 = .error engine.overrun)) := by
  intro journal later alone room
  have outermost : journal.depth = 0 := engine.depth_journalAfter calls rfl
  refine ⟨outermost, on_request_of_room builtin request outermost, fun exceeds => ?_⟩
  have counts : later.2.expansions = journal.expansions ∨
      later.2.expansions ≤ engine.config.maxExpansions →
        alone.2.expansions = later.2.expansions - journal.expansions :=
    expansions_of_request builtin request outermost
  have moved : later.2.expansions ≠ journal.expansions := by
    intro still
    have nothing := counts (.inl still)
    omega
  have beyond : engine.config.maxExpansions < later.2.expansions := by
    refine Nat.lt_of_not_le fun within => ?_
    have fewer := counts (.inr within)
    omega
  exact ⟨beyond, fun strict => overrun_of_request builtin request strict moved beyond⟩

/-- Where two breaks were expanded before under a limit of two spans, a third one fails, which
a renderer that has done nothing yet expands. -/
theorem request_after_calls_of_breaks :
    let engine : Engine :=
      { config := { maxExpansions := 2 }
        registry := .builtin
        rules := ⟨[]⟩
        patterns := .linear
        words := .counting 0 }
    let scope : Scope := { character := .object [] }
    let twice : Text := "\x7b\x7bBR\x7d\x7d\x7b\x7bBR\x7d\x7d".toList
    let once : Request := .expand scope "\x7b\x7bBR\x7d\x7d".toList
    let journal := engine.journalAfter [.expand scope twice] {}
    ((engine.request once).on { placeholders := journal.placeholders }).1 =
        .ok "<br>".toList ∧
      ((engine.request once).on journal).1 = .error engine.overrun := by
  decide +kernel

/-- Where one break was expanded before, there is room for a second one in a call. -/
theorem request_after_calls_of_room :
    let engine : Engine :=
      { config := { maxExpansions := 2 }
        registry := .builtin
        rules := ⟨[]⟩
        patterns := .linear
        words := .counting 0 }
    let scope : Scope := { character := .object [] }
    let once : Text := "\x7b\x7bBR\x7d\x7d".toList
    let call : Request := .dispatch scope "UPPER" once
    let journal := engine.journalAfter [.expand scope once] {}
    engine.registry = .builtin ∧
      ((engine.request call).on journal).1 = .ok "<BR>".toList := by
  intro engine scope once call journal
  obtain ⟨-, fits, -⟩ :=
    engine.request_after_calls rfl [.expand scope once] call
  refine ⟨rfl, ?_⟩
  rw [fits (by decide +kernel)]
  decide +kernel

end Engine
end CharacterSheet
