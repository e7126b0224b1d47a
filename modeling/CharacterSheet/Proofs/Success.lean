import Mathlib.Data.List.Forall2

/-!
# Steps that succeed

A check is made of steps that may fail. It succeeds when all of its steps do, each
on what the ones before it gave.
-/

namespace CharacterSheet

variable {α β ε : Type}

/-- One step and the next succeed when the next does on the result of the one. -/
theorem bind_eq_ok_iff
    {first : Except ε α}
    {next : α → Except ε β}
    {result : β} :
    first >>= next = .ok result ↔ ∃ middle, first = .ok middle ∧ next middle = .ok result := by
  cases first with
  | error fault => simp [bind, Except.bind]
  | ok middle => simp [bind, Except.bind]

/-- A changed result comes from a result. -/
theorem map_eq_ok_iff
    {change : α → β}
    {step : Except ε α}
    {result : β} :
    change <$> step = .ok result ↔ ∃ middle, step = .ok middle ∧ change middle = result := by
  cases step with
  | error fault => simp [Functor.map, Except.map]
  | ok middle => simp [Functor.map, Except.map]

/-- A changed result fails as the step does. -/
theorem map_eq_error_iff
    {change : α → β}
    {step : Except ε α}
    {fault : ε} :
    change <$> step = .error fault ↔ step = .error fault := by
  cases step with
  | error cause => simp [Functor.map, Except.map]
  | ok middle => simp [Functor.map, Except.map]

/-- A step that keeps a state is followed by the next one only if it succeeds. -/
theorem run_bind_eq
    {σ : Type}
    (first : ExceptT ε (StateM σ) α)
    (next : α → ExceptT ε (StateM σ) β)
    (state : σ) :
    (first >>= next).run state =
      match first.run state with
      | (.ok result, after) => (next result).run after
      | (.error fault, after) => (.error fault, after) := by
  change (StateT.bind (ExceptT.run first) (ExceptT.bindCont next)) state = _
  unfold StateT.bind
  rcases first.run state with ⟨fault | result, after⟩ <;> rfl

/-- Steps through a list succeed when the first one and all others do. -/
theorem mapM_cons_eq_ok_iff
    {step : α → Except ε β}
    {item : α}
    {items : List α}
    {results : List β} :
    (item :: items).mapM step = .ok results ↔
      ∃ result rest,
        step item = .ok result ∧ items.mapM step = .ok rest ∧ results = result :: rest := by
  rw [List.mapM_cons, bind_eq_ok_iff]
  constructor
  · rintro ⟨result, head, tail⟩
    obtain ⟨rest, others, joined⟩ := bind_eq_ok_iff.1 tail
    cases joined
    exact ⟨result, rest, head, others, rfl⟩
  · rintro ⟨result, rest, head, others, rfl⟩
    exact ⟨result, head, bind_eq_ok_iff.2 ⟨rest, others, rfl⟩⟩

/-- Steps through a list give the results of its items, one for each in order. -/
theorem mapM_eq_ok_iff
    {step : α → Except ε β}
    {items : List α}
    {results : List β} :
    items.mapM step = .ok results ↔
      List.Forall₂ (fun item result => step item = .ok result) items results := by
  induction items generalizing results with
  | nil =>
      rw [List.forall₂_nil_left_iff]
      exact ⟨fun done => (Except.ok.inj done).symm, fun same => same ▸ rfl⟩
  | cons item items inductionHypothesis =>
      rw [mapM_cons_eq_ok_iff, List.forall₂_cons_left_iff]
      constructor
      · rintro ⟨result, rest, head, tail, rfl⟩
        exact ⟨result, rest, head, inductionHypothesis.1 tail, rfl⟩
      · rintro ⟨result, rest, head, tail, rfl⟩
        exact ⟨result, rest, head, inductionHypothesis.2 tail, rfl⟩

/-- Steps through a list succeed when each of them does. -/
theorem exists_mapM_eq_ok_iff
    {step : α → Except ε β}
    {items : List α} :
    (∃ results, items.mapM step = .ok results) ↔
      ∀ item ∈ items, ∃ result, step item = .ok result := by
  constructor
  · rintro ⟨results, done⟩
    have each := mapM_eq_ok_iff.1 done
    induction each with
    | nil => simp
    | cons first rest inductionHypothesis =>
        exact List.forall_mem_cons.2
          ⟨⟨_, first⟩, inductionHypothesis (mapM_eq_ok_iff.2 rest)⟩
  · intro each
    induction items with
    | nil => exact ⟨[], rfl⟩
    | cons item items inductionHypothesis =>
        obtain ⟨⟨result, first⟩, rest⟩ := List.forall_mem_cons.1 each
        obtain ⟨results, others⟩ := inductionHypothesis rest
        exact ⟨result :: results, mapM_cons_eq_ok_iff.2 ⟨result, results, first, others, rfl⟩⟩

/-- Steps through a list fail with what one of them fails with. -/
theorem exists_of_mapM_eq_error
    {step : α → Except ε β}
    {items : List α}
    {fault : ε}
    (failed : items.mapM step = .error fault) :
    ∃ item ∈ items, step item = .error fault := by
  induction items with
  | nil => cases failed
  | cons item items inductionHypothesis =>
      rw [List.mapM_cons] at failed
      cases first : step item with
      | error other =>
          rw [first] at failed
          cases failed
          exact ⟨item, List.mem_cons_self, first⟩
      | ok result =>
          rw [first] at failed
          cases rest : items.mapM step with
          | error other =>
              simp only [rest] at failed
              cases failed
              obtain ⟨other, member, fails⟩ := inductionHypothesis rest
              exact ⟨other, List.mem_cons_of_mem item member, fails⟩
          | ok results =>
              simp only [rest] at failed
              cases failed

/-- Of two lists that correspond, each item of the one has an item of the other. -/
theorem exists_of_mem_of_forall₂
    {related : α → β → Prop}
    {items : List α}
    {results : List β}
    (correspond : List.Forall₂ related items results)
    {result : β}
    (mem : result ∈ results) :
    ∃ item ∈ items, related item result := by
  induction correspond with
  | nil => cases mem
  | cons first rest inductionHypothesis =>
      rcases List.mem_cons.1 mem with rfl | later
      · exact ⟨_, List.mem_cons_self, first⟩
      · obtain ⟨item, itemMem, relates⟩ := inductionHypothesis later
        exact ⟨item, List.mem_cons_of_mem _ itemMem, relates⟩

/-- What every step through a list keeps holds at the end. -/
theorem holds_of_foldlM
    (holds : β → Prop)
    {step : β → α → Except ε β}
    {items : List α}
    {start result : β}
    (keeps : ∀ state item next, holds state → item ∈ items →
      step state item = .ok next → holds next)
    (begins : holds start)
    (done : items.foldlM step start = .ok result) :
    holds result := by
  induction items generalizing start with
  | nil =>
      cases done
      exact begins
  | cons item items inductionHypothesis =>
      rw [List.foldlM_cons, bind_eq_ok_iff] at done
      obtain ⟨next, first, rest⟩ := done
      exact inductionHypothesis
        (fun state item next before mem => keeps state item next before
          (List.mem_cons_of_mem _ mem))
        (keeps start item next begins List.mem_cons_self first) rest

/-- What is gathered in steps through a list is what was there at the start and what the items
give, if every step gathers what its item gives. -/
theorem gathered_of_foldlM
    {γ : Type}
    (holds : β → Prop)
    (gathered : β → γ → Prop)
    (gives : α → γ → Prop)
    {step : β → α → Except ε β}
    {items : List α}
    {start result : β}
    (begins : holds start)
    (done : items.foldlM step start = .ok result)
    (gathers : ∀ state item next, holds state → step state item = .ok next →
      holds next ∧ ∀ part, gathered next part ↔ gathered state part ∨ gives item part) :
    holds result ∧
      ∀ part, gathered result part ↔ gathered start part ∨ ∃ item ∈ items, gives item part := by
  induction items generalizing start with
  | nil =>
      cases done
      exact ⟨begins, fun part => by simp⟩
  | cons item items inductionHypothesis =>
      rw [List.foldlM_cons, bind_eq_ok_iff] at done
      obtain ⟨next, first, rest⟩ := done
      obtain ⟨before, firstly⟩ := gathers start item next begins first
      obtain ⟨after, lastly⟩ := inductionHypothesis before rest
      refine ⟨after, fun part => ?_⟩
      rw [lastly, firstly, List.exists_mem_cons_iff, or_assoc]

end CharacterSheet
