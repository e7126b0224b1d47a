import CharacterSheet.Pattern.Linear
import CharacterSheet.Proofs.Rendering.Document
import CharacterSheet.Proofs.Rendering.Failures
import CharacterSheet.Proofs.Rendering.Headroom

/-!
# The limit only cuts off

The fault of the limit is a fault like others, and it passes through handlers that go on
with a result of their own after some faults. Orderly handlers do so only after an
unresolved reference. So a strict run whose counter goes beyond the limit ends with the
fault of the limit, at whatever level of nesting the counter got there, and nothing is
counted afterwards (`Run.cutOff`).

A run within the limit, on the other hand, is the same under every limit that it stays
within (`Run.limited_of_render`). Under two limits a strict rendering is therefore the
same, or the lower limit stops it (`Engine.render_cut_off`).
-/

namespace CharacterSheet

namespace Engine

variable (engine : Engine)

theorem expansions_of_countExpansion
    {journal after : Journal}
    (counted : engine.countExpansion.on journal = (.ok (), after)) :
    after.expansions = journal.expansions + 1 := by
  rw [(engine.on_countExpansion_ok counted).2]

/-- A tooltip is no span. -/
theorem expansions_of_registerTooltip
    {html source token : Text}
    {journal after : Journal}
    (kept : (engine.registerTooltip html source).on journal = (.ok token, after)) :
    after.expansions = journal.expansions := by
  rw [on_registerTooltip] at kept
  cases kept
  change (engine.announced html source journal).expansions = _
  unfold announced
  split <;> rfl

end Engine

namespace Run

variable {engine : Engine} {kept : Text → Prop}

/-- Inside an expansion a strict run that counts more spans than it evaluates has met the
limit, and it ends with the fault of the limit as soon as it does. -/
theorem cutOff
    {policy : Policy}
    {job : Job}
    {journal after : Journal}
    {spans : Nat}
    {outcome : Except Fault Text}
    (handlers : engine.registry.Orderly kept)
    (neutral : engine.registry.Neutral)
    (strict : policy.strict = true)
    (run : Run engine job journal spans outcome after)
    (inside : 0 < journal.depth)
    (orderly : job.Orderly kept)
    (stays : job.StaysUnder policy)
    (beyond : journal.expansions + spans < after.expansions) :
    outcome = .error engine.overrun ∧
      after.expansions = journal.expansions + spans + 1 := by
  induction run with
  | unterminated | clear | done | fail => omega
  | overrun found counted =>
      obtain ⟨-, rfl, rfl⟩ := engine.on_countExpansion_error counted
      exact ⟨rfl, rfl⟩
  | stopped found within failed inductionHypothesis =>
      have start := engine.extends_of_countExpansion within
      have first := engine.expansions_of_countExpansion within
      obtain ⟨ends, counts⟩ := inductionHypothesis (start.depth_pos inside) trivial stays (by omega)
      exact ⟨ends, by omega⟩
  | replaced found within evaluated rest spanHypothesis restHypothesis =>
      have start := (engine.extends_of_countExpansion within).depth_pos inside
      have first := engine.expansions_of_countExpansion within
      have growth := evaluated.growth start
      rcases Nat.eq_or_lt_of_le growth.expansions_le with exact | early
      · obtain ⟨rfl, counts⟩ := restHypothesis (growth.depth_pos start) trivial stays (by omega)
        exact ⟨rfl, by omega⟩
      · obtain ⟨failed, -⟩ := spanHypothesis start trivial stays early
        cases failed
  | evaluated followed inductionHypothesis =>
      cases stays
      obtain ⟨failed, -⟩ := inductionHypothesis inside
        (Engine.orderly_spanScript handlers _ _) (Engine.staysUnder_spanScript neutral _ _) beyond
      cases failed
  | marked followed shows =>
      cases stays
      rw [Policy.shows_of_strict strict] at shows
      cases shows
  | aborted followed hides inductionHypothesis =>
      cases stays
      exact inductionHypothesis inside (Engine.orderly_spanScript handlers _ _)
        (Engine.staysUnder_spanScript neutral _ _) beyond
  | @expandRequest scope text _ _ _ answer _ _ between _ answered rest
      answerHypothesis restHypothesis
  | @renderRequest scope text _ _ _ answer _ _ between _ answered rest
      answerHypothesis restHypothesis =>
      have growth := answered.growth inside
      have insideRest := growth.depth_pos inside
      rcases Nat.eq_or_lt_of_le growth.expansions_le with exact | early
      · cases answer with
        | ok text =>
            obtain ⟨rfl, counts⟩ := restHypothesis insideRest (orderly.1 text) (stays.2 _)
              (by omega)
            exact ⟨rfl, by omega⟩
        | error fault =>
            rcases orderly.2 fault with rethrows | ⟨-, orderlyRest⟩
            · rw [rethrows] at rest
              cases rest
              omega
            · obtain ⟨rfl, counts⟩ := restHypothesis insideRest orderlyRest (stays.2 _)
                (by omega)
              exact ⟨rfl, by omega⟩
      · -- the fault of the limit is never unresolved, so the script ends with it
        obtain ⟨rfl, counts⟩ := answerHypothesis inside trivial stays.1 early
        obtain ⟨rfl, rfl, rfl⟩ := ends_of_escapes scope text orderly .overrun rest
        exact ⟨rfl, counts⟩
  | drawRequest drawn rest inductionHypothesis =>
      rw [Engine.on_draw] at drawn
      cases drawn
      exact inductionHypothesis inside (orderly _) (stays.2 _) beyond
  | tooltipRequest kept rest inductionHypothesis =>
      have growth := engine.extends_of_registerTooltip kept
      have uncounted := engine.expansions_of_registerTooltip kept
      obtain ⟨rfl, counts⟩ := inductionHypothesis (growth.depth_pos inside) (orderly.2 _)
        (stays.2 _) (by omega)
      exact ⟨rfl, by omega⟩
  | reportRequest rest inductionHypothesis =>
      exact inductionHypothesis inside orderly stays.2 beyond
  | nested scanned inductionHypothesis =>
      exact inductionHypothesis (Nat.succ_pos _) trivial stays beyond
  | inner _ expanded inductionHypothesis =>
      exact inductionHypothesis inside trivial stays beyond
  | finished outermost | unfinished outermost =>
      rw [outermost] at inside
      exact absurd inside (Nat.lt_irrefl 0)

/-- A strict expansion with the built-in handlers that goes beyond the limit ends with the
fault of the limit. -/
theorem cutOff_of_expand
    {scope : Scope}
    {text : Text}
    {journal after : Journal}
    {spans : Nat}
    {outcome : Except Fault Text}
    (builtin : engine.registry = .builtin)
    (strict : scope.policy.strict = true)
    (run : Run engine (.expand scope text) journal spans outcome after)
    (start : journal.expansions ≤ engine.config.maxExpansions)
    (beyond : engine.config.maxExpansions < after.expansions) :
    outcome = .error engine.overrun ∧
      after.expansions = engine.config.maxExpansions + 1 := by
  have handlers : engine.registry.Orderly Framed := builtin ▸ Registry.orderly_builtin
  have neutral : engine.registry.Neutral := builtin ▸ Registry.neutral_builtin
  have room := run.spans_le_of_expand
  cases run with
  | @nested _ _ _ _ _ last scanned =>
      have same : last.shallower.expansions = last.expansions := rfl
      have deeper : journal.deeper.expansions = journal.expansions := rfl
      obtain ⟨ends, counts⟩ :=
        scanned.cutOff handlers neutral strict (Nat.succ_pos _) trivial rfl (by omega)
      exact ⟨ends, by omega⟩

/-- A strict outermost rendering with the built-in handlers that goes beyond the limit ends
with the fault of the limit, and no document is made. -/
theorem cutOff_of_render
    {scope : Scope}
    {text : Text}
    {journal after : Journal}
    {spans : Nat}
    {outcome : Except Fault Text}
    (builtin : engine.registry = .builtin)
    (strict : scope.policy.strict = true)
    (outermost : journal.depth = 0)
    (run : Run engine (.render scope text) journal spans outcome after)
    (beyond : engine.config.maxExpansions < after.expansions) :
    outcome = .error engine.overrun ∧
      after.expansions = engine.config.maxExpansions + 1 := by
  cases run with
  | inner inside => omega
  | finished _ expansion finalized =>
      rw [Engine.on_finalize] at finalized
      obtain ⟨-, rfl⟩ := Prod.mk.inj finalized
      rw [Engine.noted_expansions] at beyond
      obtain ⟨failed, -⟩ := expansion.cutOff_of_expand builtin strict (Nat.zero_le _) beyond
      cases failed
  | unfinished _ expansion => exact expansion.cutOff_of_expand builtin strict (Nat.zero_le _) beyond

/-- A rendering within the limit is the same under every limit that it stays within. -/
theorem limited_of_render
    {limit : Nat}
    {scope : Scope}
    {text : Text}
    {journal after : Journal}
    {spans : Nat}
    {outcome : Except Fault Text}
    (ignores : engine.registry.IgnoresLimit)
    (run : Run engine (.render scope text) journal spans outcome after)
    (within : after.expansions ≤ engine.config.maxExpansions)
    (fits : after.expansions ≤ limit) :
    Run (engine.limited limit) (.render scope text) journal spans outcome after := by
  have expands {spans : Nat} {outcome : Except Fault Text} {journal after : Journal}
      (expansion : Run engine (.expand scope text) journal spans outcome after)
      (within : after.expansions ≤ engine.config.maxExpansions)
      (fits : after.expansions ≤ limit) :
      Run (engine.limited limit) (.expand scope text) journal spans outcome after := by
    have advances : Run (engine.limited limit) (.expand scope text)
        (journal.advanced 0 0) spans outcome (after.advanced 0 0) :=
      expansion.advanced_of_expand (Engine.spanScript_limited ignores limit) within fits
    exact advances
  cases run with
  | inner inside expanded => exact .inner inside (expands expanded within fits)
  | finished outermost expansion finalized =>
      rw [Engine.on_finalize] at finalized
      cases finalized
      rw [Engine.noted_expansions] at within fits
      exact .finished outermost (expands expansion within fits) (Engine.on_finalize _ _ _)
  | unfinished outermost expansion =>
      exact .unfinished outermost (expands expansion within fits)

end Run

namespace Engine

/-- With the built-in handlers a limit only cuts a strict rendering off. What succeeds
under one limit succeeds with the same document under every higher one. A rendering that
stays within the lower limit is the same under both, also where it fails. One that
counts more spans, at whatever level of nesting, ends under the lower limit with the
fault of that limit, right at the first span beyond it. -/
theorem render_cut_off
    (engine : Engine)
    (builtin : engine.registry = .builtin)
    (scope : Scope)
    (text : Text)
    {journal : Journal}
    (outermost : journal.depth = 0)
    {less more : Nat}
    (ordered : less ≤ more) :
    let narrow := ((engine.limited less).render scope.strictly text).on journal
    let wide := ((engine.limited more).render scope.strictly text).on journal
    (∀ html, narrow.1 = .ok html → wide.1 = .ok html) ∧
      (wide.2.expansions ≤ less → narrow = wide) ∧
      (less < wide.2.expansions →
        narrow.1 = .error (engine.limited less).overrun ∧
          narrow.2.expansions = less + 1) := by
  intro narrow wide
  have ignores (limit : Nat) : (engine.limited limit).registry.IgnoresLimit := by
    change engine.registry.IgnoresLimit
    rw [builtin]
    exact Registry.ignoresLimit_builtin
  have performs (limit : Nat) : Performs (engine.limited limit)
      ((engine.limited limit).render scope.strictly text) (.render scope.strictly text) journal :=
    Performs.render scope.strictly text journal
  obtain ⟨narrowSpans, narrowRun⟩ := performs less
  obtain ⟨wideSpans, wideRun⟩ := performs more
  have stays (room : narrow.2.expansions ≤ less) : wide = narrow := by
    have same : Run ((engine.limited less).limited more) (.render scope.strictly text)
        journal narrowSpans narrow.1 narrow.2 :=
      narrowRun.limited_of_render (ignores less) room (Nat.le_trans room ordered)
    exact (performs more).on_eq same
  have stops (beyond : less < narrow.2.expansions) :
      narrow.1 = .error (engine.limited less).overrun ∧ narrow.2.expansions = less + 1 :=
    narrowRun.cutOff_of_render builtin rfl outermost beyond
  refine ⟨?_, ?_, ?_⟩
  · intro html succeeds
    rcases Nat.lt_or_ge less narrow.2.expansions with beyond | room
    · rw [(stops beyond).1] at succeeds
      cases succeeds
    · rw [stays room]
      exact succeeds
  · intro room
    have same : Run ((engine.limited more).limited less) (.render scope.strictly text)
        journal wideSpans wide.1 wide.2 :=
      wideRun.limited_of_render (ignores more) (Nat.le_trans room ordered) room
    exact (performs less).on_eq same
  · intro beyond
    refine stops (Nat.lt_of_not_le fun room => ?_)
    rw [stays room] at beyond
    exact Nat.not_lt.2 room beyond

/-- A condition that comes to the limit in its nested notation does not take the text for
a missing value. -/
theorem render_cut_off_of_condition :
    let engine : Engine :=
      { config := {}
        registry := .builtin
        rules := ⟨[]⟩
        patterns := .linear
        words := .counting 0 }
    let scope : Scope :=
      { character := .object []
        vars? := some (.object [("a", .string "x{{BR}}")]) }
    let text : Text := "{{IFNA:{{REF:vars.a}},none,some}}".toList
    (((engine.limited 3).render scope.strictly text).on {}).1 = .ok "some".toList ∧
      (((engine.limited 2).render scope.strictly text).on {}).1 =
        .error (engine.limited 2).overrun := by
  intro engine scope text
  have beyond :
      2 < (((engine.limited 3).render scope.strictly text).on {}).2.expansions := by
    decide +kernel
  have outermost : ({} : Journal).depth = 0 := rfl
  obtain ⟨-, -, cuts⟩ :=
    engine.render_cut_off rfl scope text outermost (show 2 ≤ 3 by decide)
  exact ⟨by decide +kernel, (cuts beyond).1⟩

end Engine
end CharacterSheet
