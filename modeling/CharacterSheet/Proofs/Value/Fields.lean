import CharacterSheet.Value.Basic

/-!
# Fields that are set

Setting a field adds that field and changes no other. Steps that each set fields of
known keys leave all other fields as they were, which `Fields.SameBeyond` says.
-/

namespace CharacterSheet
namespace Fields

theorem mem_of_get?
    {key : String}
    {value : Value}
    {fields : Fields}
    (found : get? key fields = some value) :
    (key, value) ∈ fields := by
  induction fields with
  | nil => cases found
  | cons field fields inductionHypothesis =>
      obtain ⟨k, v⟩ := field
      rw [get?_cons] at found
      split at found
      · next same =>
          cases same
          cases found
          exact List.mem_cons_self
      · exact List.mem_cons_of_mem _ (inductionHypothesis found)

/-- The key of a field leads to a value, of this field or of one before it. -/
theorem exists_get?_of_mem
    {field : String × Value}
    {fields : Fields}
    (mem : field ∈ fields) :
    ∃ first, get? field.1 fields = some first := by
  induction fields with
  | nil => cases mem
  | cons head fields inductionHypothesis =>
      obtain ⟨k, v⟩ := head
      rw [get?_cons]
      split
      · exact ⟨v, rfl⟩
      · next apart =>
          rcases List.mem_cons.1 mem with rfl | rest
          · exact absurd rfl apart
          · exact inductionHypothesis rest

theorem mem_insert
    {key : String}
    {value : Value}
    {fields : Fields}
    {field : String × Value}
    (mem : field ∈ insert key value fields) :
    field = (key, value) ∨ field ∈ fields := by
  induction fields with
  | nil => exact .inl (List.mem_singleton.1 mem)
  | cons first fields inductionHypothesis =>
      obtain ⟨k, v⟩ := first
      unfold insert at mem
      split at mem
      · rcases List.mem_cons.1 mem with same | rest
        · exact .inl same
        · exact .inr (List.mem_cons_of_mem _ rest)
      · split at mem
        · exact List.mem_cons.1 mem
        · rcases List.mem_cons.1 mem with same | rest
          · exact .inr (List.mem_cons.2 (.inl same))
          · exact (inductionHypothesis rest).imp_right (List.mem_cons_of_mem _)

theorem mem_insertAll
    {new fields : Fields}
    {field : String × Value}
    (mem : field ∈ insertAll new fields) :
    field ∈ new ∨ field ∈ fields := by
  unfold insertAll at mem
  induction new generalizing fields with
  | nil => exact .inr mem
  | cons first new inductionHypothesis =>
      rcases inductionHypothesis mem with rest | before
      · exact .inl (List.mem_cons_of_mem _ rest)
      · rcases mem_insert before with same | old
        · exact .inl (List.mem_cons.2 (.inl same))
        · exact .inr old

/-- What is found after fields were set is one of them, or was found before. -/
theorem get?_of_insertAll
    {key : String}
    {value : Value}
    {new fields : Fields}
    (found : get? key (insertAll new fields) = some value) :
    (key, value) ∈ new ∨ get? key fields = some value := by
  unfold insertAll at found
  induction new generalizing fields with
  | nil => exact .inr found
  | cons first new inductionHypothesis =>
      rcases inductionHypothesis found with rest | before
      · exact .inl (List.mem_cons_of_mem _ rest)
      · rw [get?_insert] at before
        split at before
        · next same =>
            cases same
            cases before
            exact .inl List.mem_cons_self
        · exact .inr before

/-- Leaving out other keys does not change what is found. -/
theorem get?_filter
    (keep : String → Bool)
    {key : String}
    (kept : keep key = true)
    (fields : Fields) :
    get? key (fields.filter fun field => keep field.1) = get? key fields := by
  induction fields with
  | nil => rfl
  | cons field fields inductionHypothesis =>
      obtain ⟨k, v⟩ := field
      by_cases keeps : keep k = true
      · simp only [List.filter_cons, keeps, if_true, get?_cons, inductionHypothesis]
      · have other : k ≠ key := by
          rintro rfl
          exact keeps kept
        simp only [List.filter_cons, keeps, get?_cons, other, if_false]
        exact inductionHypothesis

/-- The two have the same fields, apart from those of the given keys. -/
def SameBeyond (keys : List String) (before after : Fields) : Prop :=
  ∀ key, key ∉ keys → get? key after = get? key before

namespace SameBeyond

variable {keys : List String} {before between after : Fields}

theorem refl (keys : List String) (fields : Fields) : SameBeyond keys fields fields :=
  fun _ _ => rfl

theorem trans
    (first : SameBeyond keys before between)
    (second : SameBeyond keys between after) :
    SameBeyond keys before after :=
  fun key other => (second key other).trans (first key other)

theorem mono
    {more : List String}
    (same : SameBeyond keys before after)
    (subset : keys ⊆ more) :
    SameBeyond more before after :=
  fun key other => same key fun listed => other (subset listed)

theorem insert
    {key : String}
    (listed : key ∈ keys)
    (value : Value)
    (same : SameBeyond keys before after) :
    SameBeyond keys before (Fields.insert key value after) := by
  intro other beyond
  have apart : key ≠ other := by
    rintro rfl
    exact beyond listed
  rw [get?_insert, if_neg apart]
  exact same other beyond

end SameBeyond
end Fields
end CharacterSheet
