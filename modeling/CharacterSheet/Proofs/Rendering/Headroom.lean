import CharacterSheet.Proofs.Handler.Orderly
import CharacterSheet.Proofs.Rendering.Existence

/-!
# Runs that leave room

A run whose counter ends within the limit has never met the limit, and one whose counter
does not move has not even looked at it. So either is also a run under any other limit and
from any other counter that leave it as much room, and at a greater depth (`Run.relocated`).
Besides the renderer only handlers could look at the limit; the built-in ones do not
(`Registry.ignoresLimit_builtin`).
-/

namespace CharacterSheet

/-- What handlers see under another limit. -/
def Setting.limited (limit : Nat) (setting : Setting) : Setting :=
  { setting with config := { setting.config with maxExpansions := limit } }

namespace Handler

/-- A handler that does not look at the limit. -/
def IgnoresLimit (handler : Handler) : Prop :=
  ∀ setting limit, handler.run (setting.limited limit) = handler.run setting

theorem firstCase_limited
    (setting : Setting)
    (limit : Nat)
    (scope : Scope)
    (subject : Value)
    (cases : List Text) :
    firstCase (setting.limited limit) scope subject cases =
      firstCase setting scope subject cases := by
  fun_induction firstCase setting scope subject cases with
  | case1 | case2 => rfl
  | case3 candidate result rest inductionHypothesis =>
      rw [firstCase, inductionHypothesis]
      rfl

theorem ignoresLimit_switch : switch.IgnoresLimit := by
  intro setting limit
  funext scope content
  unfold switch
  simp only [firstCase_limited]
  rfl

/-- The built-in handlers see no more of the configuration than the longest row of
dots. -/
theorem ignoresLimit_builtin : ∀ handler ∈ builtin, handler.IgnoresLimit := by
  simp only [builtin, List.forall_mem_cons]
  and_intros
  all_goals first
    | exact ignoresLimit_switch
    | exact fun _ _ => rfl
    | exact fun _ member => absurd member List.not_mem_nil

end Handler

namespace Registry

/-- A registry of handlers that do not look at the limit. -/
def IgnoresLimit (registry : Registry) : Prop :=
  ∀ entry ∈ registry.entries, entry.2.IgnoresLimit

theorem ignoresLimit_builtin : builtin.IgnoresLimit :=
  forall_registerAll (fun _ member => absurd member List.not_mem_nil)
    Handler.ignoresLimit_builtin

end Registry

namespace Journal

/-- The journal at a greater depth and with a counter that is further on. -/
def advanced (levels spans : Nat) (journal : Journal) : Journal :=
  { journal with
    depth := journal.depth + levels
    expansions := journal.expansions + spans }

/-- The journal at a greater depth and with a counter that was moved on and back. -/
def moved (levels forth back : Nat) (journal : Journal) : Journal :=
  { journal with
    depth := journal.depth + levels
    expansions := journal.expansions + forth - back }

variable {levels spans forth back : Nat} {journal : Journal}

@[simp] theorem advanced_depth :
    (journal.advanced levels spans).depth = journal.depth + levels := rfl

@[simp] theorem advanced_expansions :
    (journal.advanced levels spans).expansions = journal.expansions + spans := rfl

@[simp] theorem moved_expansions :
    (journal.moved levels forth back).expansions = journal.expansions + forth - back := rfl

theorem deeper_moved :
    (journal.moved levels forth back).deeper = journal.deeper.moved levels forth back := by
  simp only [deeper, moved, Nat.add_right_comm]

theorem shallower_moved (inside : 0 < journal.depth) :
    (journal.moved levels forth back).shallower = journal.shallower.moved levels forth back := by
  have same : journal.depth + levels - 1 = journal.depth - 1 + levels := by omega
  simp only [shallower, moved, same]

end Journal

namespace Engine

variable {engine : Engine} {limit levels forth back : Nat} {journal after : Journal}

/-- The renderer under another limit. -/
def limited (limit : Nat) (engine : Engine) : Engine :=
  { engine with config := { engine.config with maxExpansions := limit } }

/-- Handlers that do not look at the limit have the same scripts under every limit. -/
theorem spanScript_limited
    (ignores : engine.registry.IgnoresLimit)
    (limit : Nat)
    (scope : Scope)
    (inner : Text) :
    (engine.limited limit).spanScript scope inner = engine.spanScript scope inner := by
  have calls (name : String) (content : Text) :
      (engine.limited limit).callScript scope name content =
        engine.callScript scope name content := by
    have sameRegistry : (engine.limited limit).registry = engine.registry := rfl
    unfold callScript
    rw [sameRegistry]
    cases found : engine.registry.find? name with
    | none => rfl
    | some handler =>
        have sameRun : handler.run (engine.limited limit).setting = handler.run engine.setting :=
          Registry.holds_of_find? ignores found engine.setting limit
        dsimp only
        rw [sameRun]
  unfold spanScript
  simp only [calls]

/-- Between two values of the counter a run does not tell this limit from another one with
the counter moved: the two are the same, or nothing is counted, or both leave room. -/
def SameRoom (engine : Engine) (limit forth back first last : Nat) : Prop :=
  forth = back ∧ limit = engine.config.maxExpansions ∨
    last = first ∨
    last ≤ engine.config.maxExpansions ∧ last + forth - back ≤ limit

/-- What holds between two values of the counter holds between any two among them. -/
theorem SameRoom.within
    {first last start stop : Nat}
    (same : engine.SameRoom limit forth back first last)
    (later : first ≤ start)
    (ordered : start ≤ stop)
    (earlier : stop ≤ last) :
    engine.SameRoom limit forth back start stop := by
  unfold SameRoom at same ⊢
  omega

theorem on_countExpansion_moved
    {result : Except Fault Unit}
    (counted : engine.countExpansion.on journal = (result, after))
    (low : back ≤ journal.expansions + forth)
    (same : engine.SameRoom limit forth back journal.expansions after.expansions) :
    (engine.limited limit).countExpansion.on (journal.moved levels forth back) =
      (result, after.moved levels forth back) := by
  rw [on_countExpansion] at counted ⊢
  obtain ⟨rfl, rfl⟩ := Prod.mk.inj counted
  have further : journal.expansions + forth - back + 1 = journal.expansions + 1 + forth - back := by
    omega
  have next : { journal.moved levels forth back with
      expansions := (journal.moved levels forth back).expansions + 1 } =
        ({ journal with expansions := journal.expansions + 1 } : Journal).moved
          levels forth back := by
    rw [Journal.moved_expansions, further]
    rfl
  rw [next, Journal.moved_expansions, further]
  change (if limit < _ then _ else _, _) = _
  rcases same with ⟨rfl, rfl⟩ | nothing | ⟨room, fits⟩
  · rw [Nat.add_sub_cancel]
    rfl
  · exact absurd nothing (Nat.succ_ne_self _)
  · rw [if_neg (Nat.not_lt.2 fits), if_neg (Nat.not_lt.2 room)]

theorem on_draw_moved
    {id : String}
    (drawn : engine.draw.on journal = (.ok id, after)) :
    (engine.limited limit).draw.on (journal.moved levels forth back) =
      (.ok id, after.moved levels forth back) := by
  rw [on_draw] at drawn
  cases drawn
  rfl

theorem on_registerTooltip_moved
    {html source token : Text}
    (kept : (engine.registerTooltip html source).on journal = (.ok token, after)) :
    ((engine.limited limit).registerTooltip html source).on (journal.moved levels forth back) =
      (.ok token, after.moved levels forth back) := by
  have announced :
      (engine.limited limit).announced html source (journal.moved levels forth back) =
        (engine.announced html source journal).moved levels forth back := by
    change (if engine.config.debugTooltips then _ else _) = _
    unfold announced
    split <;> rfl
  rw [on_registerTooltip] at kept ⊢
  cases kept
  rw [announced]
  rfl

end Engine

namespace Run

variable {engine : Engine} {limit levels forth back extra : Nat}

/-- An expansion is moved if its scan is. -/
theorem nested_relocated
    {scope : Scope}
    {text : Text}
    {journal after : Journal}
    {spans : Nat}
    {outcome : Except Fault Text}
    (scanned : Run engine (.scan scope text {} 0 text)
      (journal.deeper.moved levels forth back) spans outcome (after.moved levels forth back))
    (inside : 0 < after.depth) :
    Run engine (.expand scope text) (journal.moved levels forth back)
      spans outcome (after.shallower.moved levels forth back) := by
  rw [← Journal.shallower_moved inside]
  refine .nested ?_
  rw [Journal.deeper_moved]
  exact scanned

/-- A run is a run under any limit and from any counter that leave it the same room, at any
greater depth. -/
theorem relocated
    {job : Job}
    {journal after : Journal}
    {spans : Nat}
    {outcome : Except Fault Text}
    (ignores : ∀ scope inner,
      (engine.limited limit).spanScript scope inner = engine.spanScript scope inner)
    (run : Run engine job journal spans outcome after)
    (inside : 0 < journal.depth)
    (low : back ≤ journal.expansions + forth)
    (same : engine.SameRoom limit forth back journal.expansions after.expansions) :
    Run (engine.limited limit) job (journal.moved levels forth back)
      spans outcome (after.moved levels forth back) := by
  induction run with
  | unterminated found => exact .unterminated found
  | clear found => exact .clear found
  | overrun found counted => exact .overrun found (Engine.on_countExpansion_moved counted low same)
  | stopped found count failed inductionHypothesis =>
      have growth := engine.extends_of_countExpansion count
      have counts := growth.expansions_le
      have further := (failed.growth (growth.depth_pos inside)).expansions_le
      refine .stopped found
        (Engine.on_countExpansion_moved count low (same.within ?_ ?_ ?_))
        (inductionHypothesis (growth.depth_pos inside) ?_ (same.within ?_ ?_ ?_))
      all_goals omega
  | replaced found count evaluated rest spanHypothesis restHypothesis =>
      have growth := engine.extends_of_countExpansion count
      have counts := growth.expansions_le
      have further := evaluated.growth (growth.depth_pos inside)
      have spanCounts := further.expansions_le
      have insideRest := further.depth_pos (growth.depth_pos inside)
      have restCounts := (rest.growth insideRest).expansions_le
      refine .replaced found
        (Engine.on_countExpansion_moved count low (same.within ?_ ?_ ?_))
        (spanHypothesis (growth.depth_pos inside) ?_ (same.within ?_ ?_ ?_))
        (restHypothesis insideRest ?_ (same.within ?_ ?_ ?_))
      all_goals omega
  | evaluated followed inductionHypothesis =>
      have moves := inductionHypothesis inside low same
      rw [← ignores] at moves
      exact .evaluated moves
  | marked followed shows shown inductionHypothesis =>
      rw [Engine.on_showFault] at shown
      cases shown
      have moves := inductionHypothesis inside low same
      rw [← ignores] at moves
      exact .marked moves shows rfl
  | aborted followed hides inductionHypothesis =>
      have moves := inductionHypothesis inside low same
      rw [← ignores] at moves
      exact .aborted moves hides
  | done => exact .done
  | fail => exact .fail
  | expandRequest answered rest answerHypothesis restHypothesis =>
      have growth := answered.growth inside
      have counts := growth.expansions_le
      have insideRest := growth.depth_pos inside
      have restCounts := (rest.growth insideRest).expansions_le
      refine .expandRequest (answerHypothesis inside low (same.within ?_ ?_ ?_))
        (restHypothesis insideRest ?_ (same.within ?_ ?_ ?_))
      all_goals omega
  | renderRequest answered rest answerHypothesis restHypothesis =>
      have growth := answered.growth inside
      have counts := growth.expansions_le
      have insideRest := growth.depth_pos inside
      have restCounts := (rest.growth insideRest).expansions_le
      refine .renderRequest (answerHypothesis inside low (same.within ?_ ?_ ?_))
        (restHypothesis insideRest ?_ (same.within ?_ ?_ ?_))
      all_goals omega
  | drawRequest drawn rest inductionHypothesis =>
      have growth := engine.extends_of_draw drawn
      have counts := growth.expansions_le
      have restCounts := (rest.growth (growth.depth_pos inside)).expansions_le
      refine .drawRequest (Engine.on_draw_moved drawn)
        (inductionHypothesis (growth.depth_pos inside) ?_ (same.within ?_ ?_ ?_))
      all_goals omega
  | tooltipRequest kept rest inductionHypothesis =>
      have growth := engine.extends_of_registerTooltip kept
      have counts := growth.expansions_le
      have restCounts := (rest.growth (growth.depth_pos inside)).expansions_le
      refine .tooltipRequest (Engine.on_registerTooltip_moved kept)
        (inductionHypothesis (growth.depth_pos inside) ?_ (same.within ?_ ?_ ?_))
      all_goals omega
  | reportRequest _ inductionHypothesis =>
      exact .reportRequest (inductionHypothesis inside low same)
  | nested scanned inductionHypothesis =>
      have deeper := (scanned.growth (Nat.succ_pos _)).depth_pos (Nat.succ_pos _)
      exact nested_relocated (inductionHypothesis (Nat.succ_pos _) low same) deeper
  | inner _ expanded inductionHypothesis =>
      exact .inner (Nat.add_pos_left inside levels) (inductionHypothesis inside low same)
  | finished outermost | unfinished outermost =>
      rw [outermost] at inside
      exact absurd inside (Nat.lt_irrefl 0)

/-- An expansion can begin anywhere with the same room. -/
theorem relocated_of_expand
    {scope : Scope}
    {text : Text}
    {journal after : Journal}
    {spans : Nat}
    {outcome : Except Fault Text}
    (ignores : ∀ scope inner,
      (engine.limited limit).spanScript scope inner = engine.spanScript scope inner)
    (run : Run engine (.expand scope text) journal spans outcome after)
    (low : back ≤ journal.expansions + forth)
    (same : engine.SameRoom limit forth back journal.expansions after.expansions) :
    Run (engine.limited limit) (.expand scope text) (journal.moved levels forth back)
      spans outcome (after.moved levels forth back) := by
  cases run with
  | nested scanned =>
      have deeper := (scanned.growth (Nat.succ_pos _)).depth_pos (Nat.succ_pos _)
      exact nested_relocated (scanned.relocated ignores (Nat.succ_pos _) low same) deeper

/-- An expansion within the limit can begin anywhere with as much room. -/
theorem advanced_of_expand
    {scope : Scope}
    {text : Text}
    {journal after : Journal}
    {spans : Nat}
    {outcome : Except Fault Text}
    (ignores : ∀ scope inner,
      (engine.limited limit).spanScript scope inner = engine.spanScript scope inner)
    (run : Run engine (.expand scope text) journal spans outcome after)
    (within : after.expansions ≤ engine.config.maxExpansions)
    (fits : after.expansions + extra ≤ limit) :
    Run (engine.limited limit) (.expand scope text) (journal.advanced levels extra)
      spans outcome (after.advanced levels extra) :=
  run.relocated_of_expand ignores (Nat.zero_le _) (.inr (.inr ⟨within, fits⟩))

end Run
end CharacterSheet
