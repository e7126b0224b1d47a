import CharacterSheet.Pattern.Linear
import CharacterSheet.Proofs.Rendering.Failures

/-!
# Fallbacks

Some handlers go on with a result of their own if an expansion that they asked for
comes to an unresolved reference. An unforgiving renderer leaves them no such choice:
a script fails with the fault of any request.

A lenient rendering never takes such a fallback, since the fault is shown before the
handler sees it (`Run.unforgiving`). A strict one may. So what a strict rendering gives
is also the lenient outcome exactly if no fallback was taken on the way, that is, if an
unforgiving renderer succeeds as well (`Engine.render_leniently_eq_iff`).
-/

namespace CharacterSheet

namespace Script

variable {α β : Type}

/-- The script that fails with the fault of a request where the script might go on. -/
def unforgiving : Script α → Script α
  | .done result => .done result
  | .fail fault => .fail fault
  | .expand scope text next => .expand scope text fun
      | .ok text => unforgiving (next (.ok text))
      | .error fault => .fail fault
  | .render scope text next => .render scope text fun
      | .ok text => unforgiving (next (.ok text))
      | .error fault => .fail fault
  | .draw next => .draw fun id => unforgiving (next id)
  | .tooltip html source next => .tooltip html source fun token => unforgiving (next token)
  | .report diagnostic next => .report diagnostic (unforgiving next)

theorem unforgiving_map
    (change : α → β)
    (script : Script α) :
    (change <$> script).unforgiving = change <$> script.unforgiving := by
  change (script.bind fun result => .done (change result)).unforgiving =
    script.unforgiving.bind fun result => .done (change result)
  induction script with
  | done | fail => rfl
  | expand scope text step inductionHypothesis
  | render scope text step inductionHypothesis =>
      simp only [bind, unforgiving, inductionHypothesis]
      congr 1
      funext answer
      cases answer <;> rfl
  | draw step inductionHypothesis => simp only [bind, unforgiving, inductionHypothesis]
  | tooltip html source step inductionHypothesis =>
      simp only [bind, unforgiving, inductionHypothesis]
  | report diagnostic step inductionHypothesis =>
      simp only [bind, unforgiving, inductionHypothesis]

theorem under_unforgiving
    (policy : Policy)
    (script : Script α) :
    script.unforgiving.under policy = (script.under policy).unforgiving := by
  induction script with
  | done | fail => rfl
  | expand scope text step inductionHypothesis
  | render scope text step inductionHypothesis =>
      simp only [unforgiving, under, ← inductionHypothesis]
      congr 1
      funext answer
      cases answer <;> rfl
  | draw step inductionHypothesis => simp only [unforgiving, under, inductionHypothesis]
  | tooltip html source step inductionHypothesis =>
      simp only [unforgiving, under, inductionHypothesis]
  | report diagnostic step inductionHypothesis =>
      simp only [unforgiving, under, inductionHypothesis]

/-- An unforgiving script asks for nothing more. -/
theorem AsksOnly.unforgiving
    {allowed : Effect → Prop}
    {script : Script α}
    (asks : script.AsksOnly allowed) :
    script.unforgiving.AsksOnly allowed := by
  induction script with
  | done | fail => trivial
  | expand scope text step inductionHypothesis
  | render scope text step inductionHypothesis =>
      rw [Script.unforgiving]
      refine ⟨asks.1, fun answer => ?_⟩
      cases answer with
      | error fault => trivial
      | ok text => exact inductionHypothesis (.ok text) (asks.2 (.ok text))
  | draw step inductionHypothesis =>
      exact ⟨asks.1, fun id => inductionHypothesis id (asks.2 id)⟩
  | tooltip html source step inductionHypothesis =>
      exact ⟨asks.1, fun token => inductionHypothesis token (asks.2 token)⟩
  | report diagnostic step inductionHypothesis => exact ⟨asks.1, inductionHypothesis asks.2⟩

end Script

namespace Handler

/-- The handler with an unforgiving script. -/
def unforgiving (handler : Handler) : Handler :=
  { handler with
    run := fun setting scope content => (handler.run setting scope content).unforgiving }

theorem Neutral.unforgiving
    {handler : Handler}
    (neutral : handler.Neutral) :
    handler.unforgiving.Neutral where
  ignores setting policy scope content :=
    (Script.under_unforgiving policy _).trans
      (congrArg Script.unforgiving (neutral.ignores setting policy scope content))
  unmarked setting scope content :=
    Script.AsksOnly.unforgiving (neutral.unmarked setting scope content)

end Handler

namespace Registry

/-- The registry with unforgiving handlers. -/
def unforgiving (registry : Registry) : Registry :=
  ⟨registry.entries.map fun (name, handler) => (name, handler.unforgiving)⟩

theorem find?_unforgiving (registry : Registry) (name : String) :
    registry.unforgiving.find? name = (registry.find? name).map Handler.unforgiving := by
  obtain ⟨entries⟩ := registry
  change (entries.map fun entry => (entry.1, entry.2.unforgiving)).lookup (nameKey name) =
    (entries.lookup (nameKey name)).map Handler.unforgiving
  induction entries with
  | nil => rfl
  | cons entry entries inductionHypothesis =>
      obtain ⟨key, handler⟩ := entry
      rw [List.map_cons, List.lookup_cons, List.lookup_cons]
      cases nameKey name == key with
      | true => rfl
      | false => exact inductionHypothesis

/-- A neutral registry stays neutral with unforgiving handlers. -/
theorem Neutral.unforgiving
    {registry : Registry}
    (neutral : registry.Neutral) :
    registry.unforgiving.Neutral := by
  intro entry member
  obtain ⟨other, among, rfl⟩ := List.mem_map.1 member
  exact (neutral other among).unforgiving

end Registry

namespace Engine

variable (engine : Engine)

/-- The renderer with unforgiving handlers. -/
def unforgiving : Engine := { engine with registry := engine.registry.unforgiving }

theorem callScript_unforgiving (scope : Scope) (name : String) (content : Text) :
    engine.unforgiving.callScript scope name content =
      (engine.callScript scope name content).unforgiving := by
  unfold callScript
  rw [show engine.unforgiving.registry = engine.registry.unforgiving from rfl,
    Registry.find?_unforgiving]
  cases engine.registry.find? name with
  | none => rfl
  | some handler =>
      change (if handler.accepts _ then _ else _) = Script.unforgiving (if _ then _ else _)
      by_cases accepted : handler.accepts (Arguments.count content) = true
      · rw [if_pos accepted, if_pos accepted]
        exact (Script.unforgiving_map resultText _).symm
      · rw [if_neg accepted, if_neg accepted]
        rfl

theorem spanScript_unforgiving (scope : Scope) (inner : Text) :
    engine.unforgiving.spanScript scope inner = (engine.spanScript scope inner).unforgiving := by
  unfold spanScript
  cases Operation.ofInner inner with
  | error cause => rfl
  | ok operation =>
      cases operation with
      | pronoun forms keyword => rfl
      | call name content => exact engine.callScript_unforgiving scope name content

end Engine

namespace Job

/-- The job with an unforgiving script. -/
def unforgiving : Job → Job
  | .script steps => .script steps.unforgiving
  | job => job

end Job

/-- A job that comes to a fault from a journal. -/
def Falters (engine : Engine) (job : Job) (journal : Journal) : Prop :=
  ∃ spans fault after, Run engine job journal spans (.error fault) after

namespace Run

variable {engine : Engine}

/-- What an unforgiving renderer does with a job under a strict policy: the same, with
success, or it falters. -/
theorem unforgiving_or_falters
    {policy : Policy}
    {job : Job}
    {journal after : Journal}
    {spans : Nat}
    {outcome : Except Fault Text}
    (neutral : engine.registry.Neutral)
    (strict : policy.strict = true)
    (run : Run engine job journal spans outcome after) :
    (∃ text, outcome = .ok text ∧
      Run engine.unforgiving (job.under policy).unforgiving journal spans (.ok text) after) ∨
    Falters engine.unforgiving (job.under policy).unforgiving journal := by
  have hides (fault : Fault) : policy.shows fault = false := Policy.shows_of_strict strict fault
  -- by induction on the forgiving run, since only its jobs are told apart by their form
  induction run with
  | unterminated found => exact .inr ⟨_, _, _, .unterminated found⟩
  | clear found => exact .inl ⟨_, rfl, .clear found⟩
  | overrun found counted =>
      change engine.unforgiving.countExpansion.on _ = _ at counted
      exact .inr ⟨_, _, _, .overrun found counted⟩
  | stopped found within _ inductionHypothesis =>
      change engine.unforgiving.countExpansion.on _ = _ at within
      obtain ⟨_, ⟨⟩, _⟩ | ⟨_, _, _, failed⟩ := inductionHypothesis
      exact .inr ⟨_, _, _, .stopped found within failed⟩
  | replaced found within _ _ spanHypothesis restHypothesis =>
      change engine.unforgiving.countExpansion.on _ = _ at within
      obtain ⟨_, ⟨⟩, evaluated⟩ | ⟨_, _, _, failed⟩ := spanHypothesis
      · obtain ⟨_, rfl, rest⟩ | ⟨_, _, _, failed⟩ := restHypothesis
        · exact .inl ⟨_, rfl, .replaced found within evaluated rest⟩
        · exact .inr ⟨_, _, _, .replaced found within evaluated failed⟩
      · exact .inr ⟨_, _, _, .stopped found within failed⟩
  | evaluated _ inductionHypothesis =>
      rw [Job.under, Engine.spanScript_under neutral, Job.unforgiving,
        ← engine.spanScript_unforgiving] at inductionHypothesis
      obtain ⟨_, ⟨⟩, followed⟩ | ⟨_, _, _, failed⟩ := inductionHypothesis
      · exact .inl ⟨_, rfl, .evaluated followed⟩
      · exact .inr ⟨_, _, _, .aborted failed (hides _)⟩
  | marked _ _ _ inductionHypothesis | aborted _ _ inductionHypothesis =>
      rw [Job.under, Engine.spanScript_under neutral, Job.unforgiving,
        ← engine.spanScript_unforgiving] at inductionHypothesis
      obtain ⟨_, ⟨⟩, _⟩ | ⟨_, _, _, failed⟩ := inductionHypothesis
      exact .inr ⟨_, _, _, .aborted failed (hides _)⟩
  | done => exact .inl ⟨_, rfl, .done⟩
  | fail => exact .inr ⟨_, _, _, .fail⟩
  | expandRequest _ _ answerHypothesis restHypothesis =>
      rw [Job.under, Script.under, Job.unforgiving, Script.unforgiving]
      obtain ⟨_, rfl, answered⟩ | ⟨_, _, _, failed⟩ := answerHypothesis
      · obtain ⟨_, rfl, rest⟩ | ⟨_, _, _, failed⟩ := restHypothesis
        · exact .inl ⟨_, rfl, .expandRequest answered rest⟩
        · exact .inr ⟨_, _, _, .expandRequest answered failed⟩
      · exact .inr ⟨_, _, _, .expandRequest failed .fail⟩
  | renderRequest _ _ answerHypothesis restHypothesis =>
      rw [Job.under, Script.under, Job.unforgiving, Script.unforgiving]
      obtain ⟨_, rfl, answered⟩ | ⟨_, _, _, failed⟩ := answerHypothesis
      · obtain ⟨_, rfl, rest⟩ | ⟨_, _, _, failed⟩ := restHypothesis
        · exact .inl ⟨_, rfl, .renderRequest answered rest⟩
        · exact .inr ⟨_, _, _, .renderRequest answered failed⟩
      · exact .inr ⟨_, _, _, .renderRequest failed .fail⟩
  | drawRequest drawn _ inductionHypothesis =>
      change engine.unforgiving.draw.on _ = _ at drawn
      obtain ⟨_, rfl, rest⟩ | ⟨_, _, _, failed⟩ := inductionHypothesis
      · exact .inl ⟨_, rfl, .drawRequest drawn rest⟩
      · exact .inr ⟨_, _, _, .drawRequest drawn failed⟩
  | tooltipRequest kept _ inductionHypothesis =>
      change (engine.unforgiving.registerTooltip _ _).on _ = _ at kept
      obtain ⟨_, rfl, rest⟩ | ⟨_, _, _, failed⟩ := inductionHypothesis
      · exact .inl ⟨_, rfl, .tooltipRequest kept rest⟩
      · exact .inr ⟨_, _, _, .tooltipRequest kept failed⟩
  | reportRequest _ inductionHypothesis =>
      obtain ⟨_, rfl, rest⟩ | ⟨_, _, _, failed⟩ := inductionHypothesis
      · exact .inl ⟨_, rfl, .reportRequest rest⟩
      · exact .inr ⟨_, _, _, .reportRequest failed⟩
  | nested _ inductionHypothesis =>
      obtain ⟨_, rfl, scanned⟩ | ⟨_, _, _, failed⟩ := inductionHypothesis
      · exact .inl ⟨_, rfl, .nested scanned⟩
      · exact .inr ⟨_, _, _, .nested failed⟩
  | inner inside _ inductionHypothesis =>
      obtain ⟨_, rfl, expanded⟩ | ⟨_, _, _, failed⟩ := inductionHypothesis
      · exact .inl ⟨_, rfl, .inner inside expanded⟩
      · exact .inr ⟨_, _, _, .inner inside failed⟩
  | @finished _ _ _ _ outcome _ _ _ outermost _ finalized inductionHypothesis =>
      change (engine.unforgiving.finalize _).on _ = _ at finalized
      obtain ⟨_, ⟨⟩, expansion⟩ | ⟨_, _, _, failed⟩ := inductionHypothesis
      · cases outcome with
        | ok html => exact .inl ⟨html, rfl, .finished outermost expansion finalized⟩
        | error fault => exact .inr ⟨_, _, _, .finished outermost expansion finalized⟩
      · exact .inr ⟨_, _, _, .unfinished outermost failed⟩
  | unfinished outermost _ inductionHypothesis =>
      obtain ⟨_, ⟨⟩, _⟩ | ⟨_, _, _, failed⟩ := inductionHypothesis
      exact .inr ⟨_, _, _, .unfinished outermost failed⟩

/-- Where an unforgiving renderer succeeds with a job under a strict policy, the job
goes the same way under every policy. -/
theorem eq_of_unforgiving
    {policy : Policy}
    {job : Job}
    {journal after other : Journal}
    {spans more : Nat}
    {outcome : Except Fault Text}
    {text : Text}
    (neutral : engine.registry.Neutral)
    (strict : policy.strict = true)
    (run : Run engine job journal spans outcome after)
    (succeeds : Run engine.unforgiving (job.under policy).unforgiving journal
      more (.ok text) other) :
    outcome = .ok text ∧ after = other := by
  obtain ⟨_, rfl, same⟩ | ⟨_, _, _, failed⟩ := run.unforgiving_or_falters neutral strict
  · obtain ⟨-, sameText, sameJournal⟩ := same.unique succeeds
    exact ⟨sameText, sameJournal⟩
  · obtain ⟨-, different, -⟩ := failed.unique succeeds
    cases different

/-- Inside an expansion a lenient run with orderly and neutral handlers is the run of an
unforgiving renderer: no fault of a request is one that a handler treats in its own way. -/
theorem unforgiving
    {kept : Text → Prop}
    {policy : Policy}
    {job : Job}
    {journal after : Journal}
    {spans : Nat}
    {outcome : Except Fault Text}
    (handlers : engine.registry.Orderly kept)
    (neutral : engine.registry.Neutral)
    (lenient : policy.strict = false)
    (run : Run engine job journal spans outcome after)
    (inside : 0 < journal.depth)
    (orderly : job.Orderly kept)
    (stays : job.StaysUnder policy) :
    Run engine.unforgiving job.unforgiving journal spans outcome after := by
  induction run with
  | unterminated found => exact .unterminated found
  | clear found => exact .clear found
  | overrun found counted =>
      change engine.unforgiving.countExpansion.on _ = _ at counted
      exact .overrun found counted
  | stopped found within _ inductionHypothesis =>
      have growth := engine.extends_of_countExpansion within
      change engine.unforgiving.countExpansion.on _ = _ at within
      exact .stopped found within (inductionHypothesis (growth.depth_pos inside) trivial stays)
  | replaced found within evaluated _ spanHypothesis restHypothesis =>
      have growth := engine.extends_of_countExpansion within
      have spanGrowth := growth.trans (evaluated.growth (growth.depth_pos inside))
      change engine.unforgiving.countExpansion.on _ = _ at within
      exact .replaced found within (spanHypothesis (growth.depth_pos inside) trivial stays)
        (restHypothesis (spanGrowth.depth_pos inside) trivial stays)
  | evaluated _ inductionHypothesis =>
      cases stays
      have followed := inductionHypothesis inside (Engine.orderly_spanScript handlers _ _)
        (Engine.staysUnder_spanScript neutral _ _)
      rw [Job.unforgiving, ← engine.spanScript_unforgiving] at followed
      exact .evaluated followed
  | marked _ shows shown inductionHypothesis =>
      cases stays
      have followed := inductionHypothesis inside (Engine.orderly_spanScript handlers _ _)
        (Engine.staysUnder_spanScript neutral _ _)
      rw [Job.unforgiving, ← engine.spanScript_unforgiving] at followed
      exact .marked followed shows shown
  | aborted _ hides inductionHypothesis =>
      cases stays
      have followed := inductionHypothesis inside (Engine.orderly_spanScript handlers _ _)
        (Engine.staysUnder_spanScript neutral _ _)
      rw [Job.unforgiving, ← engine.spanScript_unforgiving] at followed
      exact .aborted followed hides
  | done => exact .done
  | fail => exact .fail
  | @expandRequest scope text _ _ _ answer _ _ _ _ answered rest answerHypothesis
      restHypothesis =>
      rw [Job.unforgiving, Script.unforgiving]
      have growth := answered.growth inside
      have request := answerHypothesis inside trivial stays.1
      cases answer with
      | ok result =>
          exact .expandRequest request
            (restHypothesis (growth.depth_pos inside) (orderly.1 result) (stays.2 _))
      | error fault =>
          have escapes := answered.mayFail handlers neutral lenient inside trivial stays.1 fault rfl
          obtain ⟨rfl, rfl, rfl⟩ := ends_of_escapes scope text orderly escapes rest
          exact .expandRequest request .fail
  | @renderRequest scope text _ _ _ answer _ _ _ _ answered rest answerHypothesis
      restHypothesis =>
      rw [Job.unforgiving, Script.unforgiving]
      have growth := answered.growth inside
      have request := answerHypothesis inside trivial stays.1
      cases answer with
      | ok result =>
          exact .renderRequest request
            (restHypothesis (growth.depth_pos inside) (orderly.1 result) (stays.2 _))
      | error fault =>
          have escapes := answered.mayFail handlers neutral lenient inside trivial stays.1 fault rfl
          obtain ⟨rfl, rfl, rfl⟩ := ends_of_escapes scope text orderly escapes rest
          exact .renderRequest request .fail
  | drawRequest drawn _ inductionHypothesis =>
      have growth := engine.extends_of_draw drawn
      change engine.unforgiving.draw.on _ = _ at drawn
      exact .drawRequest drawn
        (inductionHypothesis (growth.depth_pos inside) (orderly _) (stays.2 _))
  | tooltipRequest kept _ inductionHypothesis =>
      have growth := engine.extends_of_registerTooltip kept
      change (engine.unforgiving.registerTooltip _ _).on _ = _ at kept
      exact .tooltipRequest kept
        (inductionHypothesis (growth.depth_pos inside) (orderly.2 _) (stays.2 _))
  | reportRequest _ inductionHypothesis =>
      exact .reportRequest (inductionHypothesis inside orderly stays.2)
  | nested _ inductionHypothesis =>
      exact .nested (inductionHypothesis (Nat.succ_pos _) trivial stays)
  | inner within _ inductionHypothesis =>
      exact .inner within (inductionHypothesis inside trivial stays)
  | finished outermost | unfinished outermost =>
      rw [outermost] at inside
      exact absurd inside (Nat.lt_irrefl 0)

/-- A lenient rendering with the built-in handlers is that of an unforgiving renderer. -/
theorem unforgiving_of_render
    {scope : Scope}
    {text : Text}
    {journal after : Journal}
    {spans : Nat}
    {outcome : Except Fault Text}
    (builtin : engine.registry = .builtin)
    (lenient : scope.policy.strict = false)
    (run : Run engine (.render scope text) journal spans outcome after) :
    Run engine.unforgiving (.render scope text) journal spans outcome after := by
  have handlers : engine.registry.Orderly Framed := builtin ▸ Registry.orderly_builtin
  have neutral : engine.registry.Neutral := builtin ▸ Registry.neutral_builtin
  have expansion {journal after : Journal} {outcome : Except Fault Text}
      (expanded : Run engine (.expand scope text) journal spans outcome after) :
      Run engine.unforgiving (.expand scope text) journal spans outcome after := by
    cases expanded with
    | nested scanned =>
        exact .nested
          (scanned.unforgiving handlers neutral lenient (Nat.succ_pos _) trivial rfl)
  cases run with
  | inner inside expanded => exact .inner inside (expansion expanded)
  | finished outermost expanded finalized =>
      change (engine.unforgiving.finalize _).on _ = _ at finalized
      exact .finished outermost (expansion expanded) finalized
  | unfinished outermost expanded => exact .unfinished outermost (expansion expanded)

end Run

namespace Engine

variable (engine : Engine)

/-- With the built-in handlers, what a strict rendering succeeds with is the lenient
outcome too, with the same journal, exactly if an unforgiving renderer succeeds with it:
if no handler went on in place of a nested expansion that failed. -/
theorem render_leniently_eq_iff
    (builtin : engine.registry = .builtin)
    (scope : Scope)
    (text : Text)
    {html : Text}
    {journal : Journal}
    (succeeds : ((engine.render scope.strictly text).on journal).1 = .ok html) :
    (engine.render scope.leniently text).on journal =
        (engine.render scope.strictly text).on journal ↔
      ((engine.unforgiving.render scope.strictly text).on journal).1 = .ok html := by
  have neutral : engine.registry.Neutral := builtin ▸ Registry.neutral_builtin
  have strict : scope.policy.strictly.strict = true := rfl
  obtain ⟨strictSpans, strictRun⟩ : Performs engine (engine.render scope.strictly text)
      (.render scope.strictly text) journal := Performs.render scope.strictly text journal
  obtain ⟨lenientSpans, lenientRun⟩ : Performs engine (engine.render scope.leniently text)
      (.render scope.leniently text) journal := Performs.render scope.leniently text journal
  have performed : Performs engine.unforgiving (engine.unforgiving.render scope.strictly text)
      (.render scope.strictly text) journal := Performs.render scope.strictly text journal
  constructor
  · intro same
    rw [same] at lenientRun
    have unmarked := strictRun.marks_of_strict neutral strict rfl trivial
    have unforgiving := (lenientRun.unforgiving_of_render builtin rfl).strictly
      neutral.unforgiving strict unmarked
    rw [performed.on_eq unforgiving, succeeds]
  · intro unforgiving
    obtain ⟨spans, run⟩ := performed
    rw [unforgiving] at run
    have lenientSame := lenientRun.eq_of_unforgiving neutral strict run
    have strictSame := strictRun.eq_of_unforgiving neutral strict run
    exact Prod.ext (lenientSame.1.trans strictSame.1.symm)
      (lenientSame.2.trans strictSame.2.symm)

/-- A default for a reference to nothing, with an expansion inside. -/
theorem render_leniently_of_default :
    let engine : Engine :=
      { config := {}
        registry := .builtin
        rules := ⟨[]⟩
        patterns := .linear
        words := .counting 0 }
    let scope : Scope :=
      { character := .object [], policy := { location? := some ⟨"page", 1⟩ } }
    let text : Text := "\x7b\x7bIFNA:nickname,\x7b\x7bUPPER:none\x7d\x7d,some\x7d\x7d".toList
    ((engine.render scope.strictly text).on {}).1 = .ok "NONE".toList ∧
      (engine.render scope.leniently text).on {} = (engine.render scope.strictly text).on {} := by
  intro engine scope text
  have succeeds : ((engine.render scope.strictly text).on {}).1 =
      .ok "NONE".toList := by decide +kernel
  have unforgiving : ((engine.unforgiving.render scope.strictly text).on {}).1 =
      .ok "NONE".toList := by decide +kernel
  exact ⟨succeeds, (engine.render_leniently_eq_iff rfl scope text succeeds).2 unforgiving⟩

/-- A reference to nothing: the strict rendering takes it for missing, the lenient one
takes the mark of its fault for what it refers to. -/
theorem render_leniently_of_missing :
    let engine : Engine :=
      { config := {}
        registry := .builtin
        rules := ⟨[]⟩
        patterns := .linear
        words := .counting 0 }
    let scope : Scope := { character := .object [] }
    let text : Text :=
      "\x7b\x7bIFNA:\x7b\x7bREF:nickname\x7d\x7d,unknown,known\x7d\x7d".toList
    ((engine.render scope.strictly text).on {}).1 = .ok "unknown".toList ∧
      ((engine.render scope.leniently text).on {}).1 = .ok "known".toList := by
  decide +kernel

end Engine
end CharacterSheet
