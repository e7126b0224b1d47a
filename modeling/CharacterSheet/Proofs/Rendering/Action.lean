import CharacterSheet.Proofs.Success
import CharacterSheet.Rendering.Engine

/-!
# Steps of a renderer

Running a step on a journal gives an outcome and a journal. The lemmas here say
what that pair is for each way to build a step, so that later proofs never look
inside the two monads.
-/

namespace CharacterSheet
namespace Action

variable {α β : Type}

/-- The outcome of a step on a journal, and the journal afterwards. -/
def on (action : Action α) (journal : Journal) : Except Fault α × Journal :=
  action.run journal

@[simp] theorem on_pure (result : α) (journal : Journal) :
    (pure result : Action α).on journal = (.ok result, journal) := rfl

@[simp] theorem on_throw (fault : Fault) (journal : Journal) :
    (throw fault : Action α).on journal = (.error fault, journal) := rfl

@[simp] theorem on_get (journal : Journal) :
    (get : Action Journal).on journal = (.ok journal, journal) := rfl

@[simp] theorem on_set (next journal : Journal) :
    (set next : Action Unit).on journal = (.ok (), next) := rfl

@[simp] theorem on_modify (change : Journal → Journal) (journal : Journal) :
    (modify change : Action Unit).on journal = (.ok (), change journal) := rfl

theorem on_bind
    (first : Action α)
    (next : α → Action β)
    (journal : Journal) :
    (first >>= next).on journal =
      match first.on journal with
      | (.ok result, after) => (next result).on after
      | (.error fault, after) => (.error fault, after) := by
  unfold on
  rw [run_bind_eq]
  rcases first.run journal with ⟨fault | result, after⟩ <;> rfl

/-- A step that follows a successful one goes on from its journal. -/
theorem on_bind_of_ok
    {first : Action α}
    {next : α → Action β}
    {journal after : Journal}
    {result : α}
    (succeeded : first.on journal = (.ok result, after)) :
    (first >>= next).on journal = (next result).on after := by
  rw [on_bind, succeeded]

/-- A step that follows a failed one is not run. -/
theorem on_bind_of_error
    {first : Action α}
    {next : α → Action β}
    {journal after : Journal}
    {fault : Fault}
    (failed : first.on journal = (.error fault, after)) :
    (first >>= next).on journal = (.error fault, after) := by
  rw [on_bind, failed]

/-- One step and the next succeed when the next does from where the one ended. -/
theorem on_bind_eq_ok_iff
    {first : Action α}
    {next : α → Action β}
    {journal after : Journal}
    {result : β} :
    (first >>= next).on journal = (.ok result, after) ↔
      ∃ middle between,
        first.on journal = (.ok middle, between) ∧
        (next middle).on between = (.ok result, after) := by
  constructor
  · intro done
    rw [on_bind] at done
    rcases did : first.on journal with ⟨fault | middle, between⟩
    · rw [did] at done
      cases done
    · rw [did] at done
      exact ⟨middle, between, rfl, done⟩
  · rintro ⟨middle, between, did, done⟩
    exact (on_bind_of_ok did).trans done

/-- A check is a step that leaves the journal alone. -/
@[simp] theorem on_check (result : Except Fault α) (journal : Journal) :
    Action.on (ExceptT.mk (pure result)) journal = (result, journal) := rfl

/-- Steps through a list succeed when the first one and all others do. -/
theorem on_mapM_cons_eq_ok_iff
    {step : α → Action β}
    {item : α}
    {items : List α}
    {journal after : Journal}
    {results : List β} :
    ((item :: items).mapM step).on journal = (.ok results, after) ↔
      ∃ result between rest,
        (step item).on journal = (.ok result, between) ∧
        (items.mapM step).on between = (.ok rest, after) ∧
        results = result :: rest := by
  rw [List.mapM_cons, on_bind_eq_ok_iff]
  constructor
  · rintro ⟨result, between, head, tail⟩
    obtain ⟨rest, _, others, joined⟩ := on_bind_eq_ok_iff.1 tail
    cases joined
    exact ⟨result, between, rest, head, others, rfl⟩
  · rintro ⟨result, between, rest, head, others, rfl⟩
    exact ⟨result, between, head, on_bind_eq_ok_iff.2 ⟨rest, after, others, rfl⟩⟩

/-- What every step through a list keeps holds at the end, and what every step gives
holds of all results. -/
theorem holds_of_mapM
    {keeps : Journal → Prop}
    {gives : β → Prop}
    {step : α → Action β}
    {items : List α}
    {journal after : Journal}
    {results : List β}
    (each : ∀ item ∈ items, ∀ journal result after,
      keeps journal → (step item).on journal = (.ok result, after) →
        gives result ∧ keeps after)
    (begins : keeps journal)
    (done : (items.mapM step).on journal = (.ok results, after)) :
    (∀ result ∈ results, gives result) ∧ keeps after := by
  induction items generalizing journal results with
  | nil =>
      cases done
      exact ⟨nofun, begins⟩
  | cons item items inductionHypothesis =>
      obtain ⟨result, between, rest, head, tail, rfl⟩ := on_mapM_cons_eq_ok_iff.1 done
      obtain ⟨first, kept⟩ := each item List.mem_cons_self journal result between begins head
      obtain ⟨others, ends⟩ := inductionHypothesis
        (fun item mem => each item (List.mem_cons_of_mem _ mem)) kept tail
      exact ⟨List.forall_mem_cons.2 ⟨first, others⟩, ends⟩

theorem on_map
    (change : α → β)
    (action : Action α)
    (journal : Journal) :
    (change <$> action).on journal =
      ((action.on journal).1.map change, (action.on journal).2) := by
  rw [← bind_pure_comp, on_bind]
  rcases action.on journal with ⟨fault | result, after⟩ <;> rfl

/-- A changed result comes from a result. -/
theorem on_map_eq_ok_iff
    {change : α → β}
    {action : Action α}
    {journal after : Journal}
    {result : β} :
    (change <$> action).on journal = (.ok result, after) ↔
      ∃ middle, action.on journal = (.ok middle, after) ∧ change middle = result := by
  rw [on_map]
  rcases action.on journal with ⟨fault | middle, between⟩
  · simp [Except.map]
  · constructor
    · rintro ⟨⟩
      exact ⟨middle, rfl, rfl⟩
    · rintro ⟨_, ⟨⟩, rfl⟩
      rfl

@[simp] theorem on_outcome (action : Action α) (journal : Journal) :
    (outcome action).on journal =
      (.ok (action.on journal).1, (action.on journal).2) := rfl

@[simp] theorem on_nested (action : Action α) (journal : Journal) :
    (nested action).on journal =
      ((action.on { journal with depth := journal.depth + 1 }).1,
        { (action.on { journal with depth := journal.depth + 1 }).2 with
          depth :=
            (action.on { journal with depth := journal.depth + 1 }).2.depth - 1 }) :=
  rfl

@[simp] theorem on_report (diagnostic : Diagnostic) (journal : Journal) :
    (report diagnostic).on journal =
      (.ok (), { journal with
        diagnostics := journal.diagnostics.push diagnostic }) := rfl

end Action
end CharacterSheet
