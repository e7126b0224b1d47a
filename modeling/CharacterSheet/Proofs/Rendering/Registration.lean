import CharacterSheet.Proofs.Handler.Contract
import CharacterSheet.Proofs.Rendering.Document
import CharacterSheet.Proofs.Rendering.Failures
import CharacterSheet.Proofs.Rendering.Rescan

/-!
# What an expansion registers

A renderer keeps its side of the contract of a script: what it answers is expanded,
and what it draws is an identifier. So the handlers keep theirs, at every level of
nesting (`Run.meets`). With the built-in handlers every tooltip of a rendering is one
that `TOOLTIP` registered, its identifier has only letters and digits, and no
expansion fails with a fault of putting a document together.
-/

namespace CharacterSheet

namespace Identifier

/-- Whether a text has only letters and digits. -/
def IsWord (text : Text) : Prop := ∀ c ∈ text, c.isAlphanum = true

theorem forall_mem_digitsBefore
    {kind : Char → Prop}
    (digits : ∀ n < 36, kind (digit n))
    {after : Text}
    (behind : ∀ c ∈ after, kind c)
    (fuel n : Nat) :
    ∀ c ∈ digitsBefore after fuel n, kind c := by
  induction fuel generalizing after n with
  | zero => exact behind
  | succ fuel inductionHypothesis =>
      unfold digitsBefore
      split
      · next small => exact List.forall_mem_cons.2 ⟨digits n small, behind⟩
      · have last : kind (digit (n % 36)) := digits _ (Nat.mod_lt n (by decide))
        exact inductionHypothesis (List.forall_mem_cons.2 ⟨last, behind⟩) _

/-- An identifier is made of the digits of base 36. -/
theorem forall_mem_ofWord
    {kind : Char → Prop}
    (digits : ∀ n < 36, kind (digit n))
    (word : UInt64) :
    ∀ c ∈ (ofWord word).toList, kind c := by
  rw [ofWord, String.toList_ofList]
  exact forall_mem_digitsBefore digits (fun _ member => absurd member List.not_mem_nil) _ _

/-- An identifier has only letters and digits. -/
theorem isWord_ofWord (word : UInt64) : IsWord (ofWord word).toList :=
  forall_mem_ofWord (by decide) word

end Identifier

namespace Placeholders

variable {kept : Text → Prop}

/-- Every entry has markup of a kind under a drawn identifier. -/
def Filed (kept : Text → Prop) (placeholders : Placeholders) : Prop :=
  ∀ entry ∈ placeholders.entries,
    (∃ word, entry.1 = Identifier.ofWord word) ∧ kept entry.2

theorem Filed.of_get?
    {placeholders : Placeholders}
    {id : String}
    {html : Text}
    (filed : placeholders.Filed kept)
    (found : placeholders.get? id = some html) :
    (∃ word, id = Identifier.ofWord word) ∧ kept html := by
  obtain ⟨before, after, same, -⟩ := List.lookup_eq_some_iff.1 found
  exact filed (id, html) (by simp [same])

theorem Filed.get?
    {placeholders : Placeholders}
    {id : String}
    {html : Text}
    (filed : placeholders.Filed kept)
    (found : placeholders.get? id = some html) :
    Identifier.IsWord id.toList ∧ kept html := by
  obtain ⟨⟨word, rfl⟩, keeps⟩ := filed.of_get? found
  exact ⟨Identifier.isWord_ofWord word, keeps⟩

/-- What is of one kind is of any wider kind. -/
theorem Filed.mono
    {wider : Text → Prop}
    {placeholders : Placeholders}
    (wide : ∀ html, kept html → wider html)
    (filed : placeholders.Filed kept) :
    placeholders.Filed wider :=
  fun entry member => ⟨(filed entry member).1, wide _ (filed entry member).2⟩

theorem filed_clear (placeholders : Placeholders) : placeholders.clear.Filed kept :=
  fun _ member => absurd member List.not_mem_nil

theorem exists_word_of_drawFresh
    (words : WordSource)
    (used : List String)
    (drawn more : Nat) :
    ∃ word, (drawFresh words used drawn more).1 = Identifier.ofWord word := by
  induction more generalizing drawn with
  | zero => exact ⟨_, rfl⟩
  | succ more inductionHypothesis =>
      unfold drawFresh
      dsimp only
      split
      · exact inductionHypothesis _
      · exact ⟨_, rfl⟩

/-- What is drawn is the identifier of a word. -/
theorem exists_word_of_draw (words : WordSource) (placeholders : Placeholders) :
    ∃ word, (placeholders.draw words).1 = Identifier.ofWord word :=
  exists_word_of_drawFresh words _ _ _

theorem Filed.register
    {placeholders : Placeholders}
    {html : Text}
    (filed : placeholders.Filed kept)
    (words : WordSource)
    (keep : kept html) :
    (placeholders.register words html).2.Filed kept := by
  intro entry member
  rcases List.mem_cons.1 member with rfl | member
  · exact ⟨placeholders.exists_word_of_draw words, keep⟩
  · exact filed entry (List.mem_filter.1 member).1

end Placeholders

namespace Engine

variable {kept : Text → Prop} {engine : Engine}

theorem meets_spanScript
    (handlers : engine.registry.Meets engine.setting kept)
    (scope : Scope)
    (inner : Text) :
    (engine.spanScript scope inner).Meets kept fun _ => True := by
  refine engine.spanScript_of_handlers (fun _ => trivial)
    (fun _ => Fault.isAssembly_of_isRecoverable) ?_ inner
  intro name handler content found
  exact (Registry.holds_of_find? handlers found scope content).map _ fun _ _ => trivial

end Engine

namespace Job

/-- A job whose own script meets a contract. -/
def Meets (kept : Text → Prop) : Job → Prop
  | .script steps => steps.Meets kept fun _ => True
  | _ => True

end Job

namespace Run

variable {engine : Engine} {kept : Text → Prop}

/-- The outcome of an expansion is one. -/
theorem isExpansion
    {scope : Scope}
    {text : Text}
    {journal after : Journal}
    {spans : Nat}
    {outcome : Except Fault Text}
    (run : Run engine (.expand scope text) journal spans outcome after)
    (fails : FailsOnly (fun fault => !fault.isAssembly) outcome) :
    IsExpansion outcome := by
  cases outcome with
  | ok result => exact run.clear_of_expand
  | error fault =>
      change fault.isAssembly = false
      simpa using fails fault rfl

/-- Inside an expansion every script meets its contract: what is kept aside is filed,
and no job fails with a fault of putting a document together. -/
theorem meets
    {job : Job}
    {journal after : Journal}
    {spans : Nat}
    {outcome : Except Fault Text}
    (handlers : engine.registry.Meets engine.setting kept)
    (run : Run engine job journal spans outcome after)
    (inside : 0 < journal.depth)
    (asked : job.Meets kept)
    (filed : journal.placeholders.Filed kept) :
    after.placeholders.Filed kept ∧
      FailsOnly (fun fault => !fault.isAssembly) outcome := by
  have counting {journal after : Journal} {result : Except Fault Unit}
      (counted : engine.countExpansion.on journal = (result, after)) :
      after.placeholders = journal.placeholders := by
    rw [engine.on_countExpansion] at counted
    obtain ⟨-, rfl⟩ := Prod.mk.inj counted
    rfl
  induction run with
  | unterminated found =>
      obtain ⟨start, rfl⟩ := Span.eq_unterminated_of_find found
      exact ⟨filed, .error rfl⟩
  | clear found | done => exact ⟨filed, .ok _⟩
  | overrun found counted =>
      rw [counting counted]
      refine ⟨filed, .error ?_⟩
      cases Engine.escapes_of_countExpansion counted <;> rfl
  | stopped found within failed inductionHypothesis =>
      have growth := engine.extends_of_countExpansion within
      rw [← counting within] at filed
      exact inductionHypothesis (growth.depth_pos inside) trivial filed
  | @replaced _ _ _ _ _ _ _ _ _ outcome _ _ _ _ found within evaluated rest spanHypothesis
        restHypothesis =>
      have growth := engine.extends_of_countExpansion within
      rw [← counting within] at filed
      obtain ⟨between, -⟩ := spanHypothesis (growth.depth_pos inside) trivial filed
      have spanGrowth := growth.trans (evaluated.growth (growth.depth_pos inside))
      obtain ⟨ends, fails⟩ := restHypothesis (spanGrowth.depth_pos inside) trivial between
      refine ⟨ends, ?_⟩
      cases outcome with
      | ok result => exact .ok _
      | error fault => exact .error (fails fault rfl)
  | evaluated followed inductionHypothesis
  | aborted followed hides inductionHypothesis =>
      exact inductionHypothesis inside (Engine.meets_spanScript handlers _ _) filed
  | marked followed shows shown inductionHypothesis =>
      rw [Engine.on_showFault] at shown
      obtain ⟨rfl, rfl⟩ := Prod.mk.inj shown
      exact ⟨(inductionHypothesis inside (Engine.meets_spanScript handlers _ _) filed).1, .ok _⟩
  | @fail fault _ =>
      have ordinary : fault.isAssembly = false := asked
      exact ⟨filed, .error (by simp [ordinary])⟩
  | expandRequest answered rest answerHypothesis restHypothesis =>
      obtain ⟨between, fails⟩ := answerHypothesis inside trivial filed
      have growth := answered.growth inside
      exact restHypothesis (growth.depth_pos inside)
        (asked _ (answered.isExpansion fails)) between
  | renderRequest answered rest answerHypothesis restHypothesis =>
      obtain ⟨between, fails⟩ := answerHypothesis inside trivial filed
      have growth := answered.growth inside
      cases answered with
      | inner _ expanded =>
          exact restHypothesis (growth.depth_pos inside)
            (asked _ (expanded.isExpansion fails)) between
      | finished outermost | unfinished outermost =>
          rw [outermost] at inside
          exact absurd inside (Nat.lt_irrefl 0)
  | drawRequest drawn rest inductionHypothesis =>
      have growth := engine.extends_of_draw drawn
      rw [engine.on_draw] at drawn
      obtain ⟨id, rfl⟩ := Prod.mk.inj drawn
      obtain ⟨word, isWord⟩ := Placeholders.exists_word_of_draw engine.words _
      obtain rfl := (Except.ok.inj id).symm.trans isWord
      exact inductionHypothesis (growth.depth_pos inside) (asked word) filed
  | tooltipRequest registered rest inductionHypothesis =>
      have growth := engine.extends_of_registerTooltip registered
      rw [engine.on_registerTooltip] at registered
      obtain ⟨-, rfl⟩ := Prod.mk.inj registered
      exact inductionHypothesis (growth.depth_pos inside) (asked.2 _)
        (filed.register engine.words asked.1)
  | reportRequest _ inductionHypothesis => exact inductionHypothesis inside asked filed
  | nested scanned inductionHypothesis =>
      exact inductionHypothesis (Nat.succ_pos _) trivial filed
  | inner within expanded inductionHypothesis =>
      exact inductionHypothesis inside trivial filed
  | finished outermost | unfinished outermost =>
      rw [outermost] at inside
      exact absurd inside (Nat.lt_irrefl 0)

/-- What an expansion registers is filed, and it does not fail with a fault of putting
a document together. -/
theorem meets_of_expand
    {scope : Scope}
    {text : Text}
    {journal after : Journal}
    {spans : Nat}
    {outcome : Except Fault Text}
    (handlers : engine.registry.Meets engine.setting kept)
    (run : Run engine (.expand scope text) journal spans outcome after)
    (filed : journal.placeholders.Filed kept) :
    after.placeholders.Filed kept ∧
      FailsOnly (fun fault => !fault.isAssembly) outcome := by
  cases run with
  | nested scanned =>
      have kept := scanned.meets handlers (Nat.succ_pos _) trivial filed
      exact kept

end Run

namespace Engine

variable {kept : Text → Prop} (engine : Engine)

/-- What an outermost rendering registers is filed. -/
theorem filed_of_render
    (handlers : engine.registry.Meets engine.setting kept)
    (scope : Scope)
    (text : Text)
    {journal : Journal}
    (outermost : journal.depth = 0) :
    ((engine.render scope text).on journal).2.placeholders.Filed kept := by
  obtain ⟨spans, expansion⟩ : Performs engine (engine.expand scope text)
      (.expand scope text) journal.renewed := Performs.expand scope text journal.renewed
  obtain ⟨filed, -⟩ := expansion.meets_of_expand handlers
    (Placeholders.filed_clear journal.placeholders)
  rw [engine.on_render_outermost scope text outermost]
  rcases expands : (engine.expand scope text).on journal.renewed with
    ⟨fault | expanded, between⟩
  · rw [Action.on_bind_of_error expands]
    rwa [expands] at filed
  · rw [Action.on_bind_of_ok expands, engine.on_finalize, engine.noted_placeholders]
    rwa [expands] at filed

end Engine

end CharacterSheet
