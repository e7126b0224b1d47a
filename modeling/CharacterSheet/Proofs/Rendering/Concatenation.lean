import CharacterSheet.Handler.Builtin
import CharacterSheet.Pattern.Linear
import CharacterSheet.Proofs.Notation.Span
import CharacterSheet.Proofs.Rendering.Existence

/-!
# Expansion of joined texts

Two texts that are expanded one after the other give what their join gives
(`Run.expand_append`), unless an opener arises where they meet. The journal goes
through both runs, so identifiers, tooltips, the counter and the reports thread
through from left to right.

Where a text stands in its template only shows in the marks of faults, and there
only with a location. Under a policy that is strict or has no location runs can
therefore be moved (`Run.moved`), which is what joining them takes.
-/

namespace CharacterSheet

namespace Policy

/-- Whether the place of a span never shows. -/
def Placeless (policy : Policy) : Prop :=
  policy.strict = true ∨ policy.location? = none

theorem location_eq_none_of_shows
    {policy : Policy}
    {fault : Fault}
    (placeless : policy.Placeless)
    (shows : policy.shows fault = true) :
    policy.location? = none := by
  rcases placeless with strict | nowhere
  · simp [Policy.shows, strict] at shows
  · exact nowhere

end Policy

namespace Journal

/-- An expansion that goes on where another one ended is one level deeper again. -/
theorem deeper_shallower
    {journal : Journal}
    (inside : 0 < journal.depth) :
    journal.shallower.deeper = journal := by
  have same : journal.depth - 1 + 1 = journal.depth := Nat.sub_add_cancel inside
  simp only [shallower, deeper, same]

end Journal

namespace Job

/-- The job at another place of another template. -/
def moved (template : Text) (origins : Origins) (start offset : Nat) : Job → Job
  | .scan scope _ _ _ text => .scan scope template origins start text
  | .span scope inner _ _ => .span scope inner template offset
  | job => job

/-- Whether the places of the job's own spans never show. -/
def Placeless : Job → Prop
  | .scan scope _ _ _ _ => scope.policy.Placeless
  | .span scope _ _ _ => scope.policy.Placeless
  | _ => True

end Job

namespace Run

variable {engine : Engine}

/-- Under a policy that shows no place, a job has the same run at every place. What is nested in it
may be under another policy, but it has places of its own. -/
theorem moved
    {job : Job}
    {journal after : Journal}
    {spans : Nat}
    {outcome : Except Fault Text}
    (run : Run engine job journal spans outcome after)
    (placeless : job.Placeless)
    (template : Text)
    (origins : Origins)
    (start offset : Nat) :
    Run engine (job.moved template origins start offset)
      journal spans outcome after := by
  induction run generalizing template origins start offset with
  | unterminated found => exact .unterminated found
  | clear found => exact .clear found
  | overrun found counted => exact .overrun found counted
  | @stopped _ _ _ _ _ span _ _ _ _ _ found within _ inductionHypothesis =>
      exact .stopped found within
        (inductionHypothesis placeless template origins start
          (origins.source (start + Text.bytes span.before)))
  | @replaced _ _ _ _ _ span _ _ shown _ _ _ _ _ found within _ _
      spanHypothesis restHypothesis =>
      exact .replaced found within
        (spanHypothesis placeless template origins start
          (origins.source (start + Text.bytes span.before)))
        (restHypothesis placeless template
          (origins.replaced (start + Text.bytes span.before)
            (start + Text.bytes span.before + Text.bytes span.whole) (Text.bytes shown))
          (start + Text.bytes span.before) offset)
  | evaluated followed => exact .evaluated followed
  | marked followed shows shown =>
      refine .marked followed shows (Eq.trans ?_ shown)
      have nowhere := Policy.location_eq_none_of_shows placeless shows
      simp only [Engine.on_showFault, Engine.faultMark, nowhere]
  | aborted followed hides => exact .aborted followed hides
  | done => exact .done
  | fail => exact .fail
  | expandRequest answered rest => exact .expandRequest answered rest
  | renderRequest answered rest => exact .renderRequest answered rest
  | drawRequest drawn rest => exact .drawRequest drawn rest
  | tooltipRequest kept rest => exact .tooltipRequest kept rest
  | reportRequest rest => exact .reportRequest rest
  | nested scanned => exact .nested scanned
  | inner inside expanded => exact .inner inside expanded
  | finished outermost expansion finalized => exact .finished outermost expansion finalized
  | unfinished outermost expansion => exact .unfinished outermost expansion

/-- A span is replaced wherever it stands, and the scan goes on from anywhere. -/
theorem replaced_anywhere
    {scope : Scope}
    {template spanTemplate restTemplate : Text}
    {origins restOrigins : Origins}
    {start restStart offset : Nat}
    {text shown : Text}
    {span : Span}
    {journal counted between after : Journal}
    {spans more : Nat}
    {outcome : Except Fault Text}
    (placeless : scope.policy.Placeless)
    (found : Span.find text = .ok (some span))
    (within : engine.countExpansion.on journal = (.ok (), counted))
    (evaluated : Run engine (.span scope span.inner spanTemplate offset)
      counted spans (.ok shown) between)
    (rest : Run engine
      (.scan scope restTemplate restOrigins restStart (shown ++ span.after))
      between more outcome after) :
    Run engine (.scan scope template origins start text)
      journal (spans + 1 + more) (outcome.map (span.before ++ ·)) after :=
  .replaced found within
    (evaluated.moved placeless template origins start _)
    (rest.moved placeless template _ _ offset)

/-- A text in front in which no span begins only stands in front of the outcome. -/
theorem scan_prepend
    {scope : Scope}
    {template : Text}
    {origins : Origins}
    {start : Nat}
    {left right : Text}
    {journal after : Journal}
    {spans : Nat}
    {outcome : Except Fault Text}
    (placeless : scope.policy.Placeless)
    (apart : Sealed left right)
    (run : Run engine (.scan scope template origins start right)
      journal spans outcome after) :
    Run engine (.scan scope template origins start (left ++ right))
      journal spans (outcome.map (left ++ ·)) after := by
  have moving := Span.find_append_left apart
  cases run with
  | unterminated found =>
      rw [found] at moving
      exact .unterminated moving
  | clear found =>
      rw [found] at moving
      exact .clear moving
  | overrun found counted =>
      rw [found] at moving
      exact .overrun moving counted
  | stopped found within failed =>
      rw [found] at moving
      exact .stopped moving within (failed.moved placeless template origins start _)
  | @replaced _ _ _ _ _ span _ _ _ outcome _ _ _ _ found within evaluated rest =>
      rw [found] at moving
      have joined : Run engine (.scan scope template origins start (left ++ right))
          journal _ (outcome.map ((left ++ span.before) ++ ·)) after :=
        replaced_anywhere placeless moving within evaluated rest
      have same : (outcome.map (span.before ++ ·)).map (left ++ ·) =
          outcome.map ((left ++ span.before) ++ ·) := by
        cases outcome with
        | error fault => rfl
        | ok text => simp only [Except.map, List.append_assoc]
      rw [same]
      exact joined

/-- Two scans that follow each other are a scan of the joined text. -/
theorem scan_append
    {scope : Scope}
    {template secondTemplate : Text}
    {origins secondOrigins : Origins}
    {start secondStart : Nat}
    {left right leftResult rightResult : Text}
    {journal between after : Journal}
    {spans more : Nat}
    (placeless : scope.policy.Placeless)
    (first : Run engine (.scan scope template origins start left)
      journal spans (.ok leftResult) between)
    (second : Run engine
      (.scan scope secondTemplate secondOrigins secondStart right)
      between more (.ok rightResult) after)
    (seam : ¬ (leftResult.getLast? = some '{' ∧ right.head? = some '{')) :
    Run engine (.scan scope template origins start (left ++ right))
      journal (spans + more) (.ok (leftResult ++ rightResult)) after := by
  generalize sameJob : Job.scan scope template origins start left = job at first
  generalize sameOutcome : Except.ok leftResult = outcome at first
  induction first generalizing scope template origins start left leftResult with
  | @clear _ template origins start left _ found =>
      cases sameJob
      cases sameOutcome
      have apart : Sealed left right := ⟨Span.find_eq_none_iff.1 found, seam⟩
      have joined := scan_prepend placeless apart
        (second.moved placeless template origins start 0)
      rw [Nat.zero_add]
      exact joined
  | @replaced _ _ _ _ _ span spans more' shown outcome _ _ _ _ found within evaluated rest
      spanHypothesis restHypothesis =>
      cases sameJob
      obtain ⟨restResult, rfl, rfl⟩ : ∃ restResult,
          outcome = .ok restResult ∧ leftResult = span.before ++ restResult := by
        cases outcome with
        | error fault => cases sameOutcome
        | ok restResult =>
            cases sameOutcome
            exact ⟨restResult, rfl, rfl⟩
      -- the rest of the scan ends as the whole one does, so it has the same seam
      have restSeam : ¬ (restResult.getLast? = some '{' ∧ right.head? = some '{') := by
        rintro ⟨ends, starts⟩
        refine seam ⟨?_, starts⟩
        rw [List.getLast?_append, ends, Option.some_or]
      have joined := restHypothesis placeless second restSeam rfl rfl
      rw [List.append_assoc] at joined
      rw [Nat.add_assoc, List.append_assoc]
      exact replaced_anywhere placeless (Span.find_append_right found right)
        within evaluated joined
  | _ => cases sameJob <;> cases sameOutcome

/-- Two expansions that follow each other are an expansion of the joined text. -/
theorem expand_append
    {scope : Scope}
    {left right leftResult rightResult : Text}
    {journal between after : Journal}
    {spans more : Nat}
    (placeless : scope.policy.Placeless)
    (first : Run engine (.expand scope left)
      journal spans (.ok leftResult) between)
    (second : Run engine (.expand scope right)
      between more (.ok rightResult) after)
    (seam : ¬ (leftResult.getLast? = some '{' ∧ right.head? = some '{')) :
    Run engine (.expand scope (left ++ right))
      journal (spans + more) (.ok (leftResult ++ rightResult)) after := by
  cases first with
  | nested firstScan =>
      cases second with
      | nested secondScan =>
          have growth := firstScan.growth (Nat.succ_pos _)
          rw [Journal.deeper_shallower (growth.depth_pos (Nat.succ_pos _))] at secondScan
          have joined := scan_append placeless firstScan secondScan seam
          exact .nested (joined.moved placeless (left ++ right) {} 0 0)

end Run

namespace Engine

variable (engine : Engine)

/-- Under a policy that shows no place the expansion of a joined text is the
expansions of its parts, one after the other, if no opener arises where the first
one ends. The reports of the two follow each other, and plain text between the
parts is untouched. -/
theorem expand_joined
    (scope : Scope)
    {left right leftResult rightResult : Text}
    {journal between after : Journal}
    (placeless : scope.policy.Placeless)
    (first : (engine.expand scope left).on journal = (.ok leftResult, between))
    (second : (engine.expand scope right).on between = (.ok rightResult, after))
    (seam : ¬ (leftResult.getLast? = some '{' ∧ right.head? = some '{')) :
    (engine.expand scope (left ++ right)).on journal =
        (.ok (leftResult ++ rightResult), after) ∧
      (∃ reported further : List Diagnostic,
        between.diagnostics.toList = journal.diagnostics.toList ++ reported ∧
        after.diagnostics.toList = journal.diagnostics.toList ++ reported ++ further) ∧
      ∀ plain : Text, ¬ spanOpener <:+: plain →
        ¬ (leftResult.getLast? = some '{' ∧ plain.head? = some '{') →
        ¬ (plain.getLast? = some '{' ∧ right.head? = some '{') →
        (engine.expand scope (left ++ (plain ++ right))).on journal =
          (.ok (leftResult ++ (plain ++ rightResult)), after) := by
  have performed (text : Text) (start : Journal) :
      Performs engine (engine.expand scope text) (.expand scope text) start :=
    Performs.expand scope text start
  obtain ⟨spans, firstRun⟩ := performed left journal
  obtain ⟨more, secondRun⟩ := performed right between
  rw [first] at firstRun
  rw [second] at secondRun
  refine ⟨?_, ?_, ?_⟩
  · exact (performed (left ++ right) journal).on_eq
      (firstRun.expand_append placeless secondRun seam)
  · obtain ⟨reported, firstReports⟩ := firstRun.growth_of_expand.diagnostics_prefix
    obtain ⟨further, secondReports⟩ := secondRun.growth_of_expand.diagnostics_prefix
    refine ⟨reported, further, firstReports.symm, ?_⟩
    rw [firstReports]
    exact secondReports.symm
  · intro plain clear plainSeam rightSeam
    have tail := (Run.expand_plain clear).expand_append placeless secondRun rightSeam
    refine (performed (left ++ (plain ++ right)) journal).on_eq
      (firstRun.expand_append placeless tail ?_)
    rintro ⟨ends, starts⟩
    cases plain with
    | nil => exact seam ⟨ends, starts⟩
    | cons c plain => exact plainSeam ⟨ends, starts⟩

/-- Two line breaks, one after the other under a strict policy. -/
theorem expand_joined_of_breaks :
    let engine : Engine :=
      { config := {}
        registry := .builtin
        rules := ⟨[]⟩
        patterns := .linear
        words := .counting 0 }
    let scope : Scope := { character := .object [], policy := { strict := true } }
    (engine.expand scope "{{BR}}a{{BR}}".toList).on {} =
      (.ok "<br>a<br>".toList, { expansions := 2 }) := by
  intro engine scope
  have first : (engine.expand scope "{{BR}}a".toList).on {} =
      (.ok "<br>a".toList, { expansions := 1 }) := rfl
  have second : (engine.expand scope "{{BR}}".toList).on
      { expansions := 1 } = (.ok "<br>".toList, { expansions := 2 }) := rfl
  exact (engine.expand_joined scope (Or.inl rfl) first second (by decide)).1

end Engine
end CharacterSheet
