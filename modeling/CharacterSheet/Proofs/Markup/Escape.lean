import CharacterSheet.Markup.Escape

/-!
# Reading escaped text back

An escaped text is made of entities and of characters that stand for themselves
(`escapeChar_entity_or_plain`). An entity holds one ampersand, at its start, and no other
character that is escaped, so what was escaped does not occur any more (`mem_escape`), every
ampersand starts an entity (`entity_of_escape_eq`), and reading the entities from left to
right gives the text back (`unescape_escape`), also where the text itself looks like one.
-/

namespace CharacterSheet
namespace Markup

/-- The entities that escaping writes, each with the character it stands for. -/
def entities : List (Text × Char) :=
  [("&amp;".toList, '&'), ("&lt;".toList, '<'), ("&gt;".toList, '>'), ("&quot;".toList, '"'),
    ("&#39;".toList, '\''), ("&#123;".toList, '{'), ("&#125;".toList, '}')]

/-- The characters that escaping writes as entities. -/
def reserved : List Char := entities.map Prod.snd

/-- The character of the entity that leads a text, and the text behind it. -/
def readEntity? (text : Text) : Option (Char × Text) :=
  entities.findSome? fun (entity, c) => (Text.after? entity text).map fun rest => (c, rest)

/-- A character is written as its entity, or as itself if it has none. -/
theorem escapeChar_entity_or_plain (c : Char) :
    (escapeChar c, c) ∈ entities ∨ escapeChar c = [c] ∧ c ∉ reserved := by
  unfold escapeChar
  repeat' split
  case isFalse => exact .inr ⟨rfl, by simp_all [reserved, entities]⟩
  all_goals
    subst c
    exact .inl (by decide)

/-- An entity starts with an ampersand and holds no other reserved character. -/
theorem exists_of_mem_entities
    {entity : Text}
    {c : Char}
    (member : (entity, c) ∈ entities) :
    ∃ name, entity = '&' :: name ∧ ∀ d ∈ name, d ∉ reserved := by
  -- Stated by `all`, since to decide a quantifier may be to try every character there is.
  have shape : ∀ entry ∈ entities,
      entry.1 = '&' :: entry.1.tail ∧ (entry.1.tail.all (· ∉ reserved)) = true := by
    decide
  obtain ⟨ampersand, others⟩ := shape (entity, c) member
  exact ⟨entity.tail, ampersand, fun d mem => of_decide_eq_true (List.all_eq_true.1 others d mem)⟩

theorem readEntity?_append
    {entity : Text}
    {c : Char}
    (member : (entity, c) ∈ entities)
    (rest : Text) :
    readEntity? (entity ++ rest) = some (c, rest) := by
  simp only [entities, List.mem_cons, List.not_mem_nil, or_false, Prod.mk.injEq] at member
  rcases member with ⟨rfl, rfl⟩ | ⟨rfl, rfl⟩ | ⟨rfl, rfl⟩ | ⟨rfl, rfl⟩ | ⟨rfl, rfl⟩ |
    ⟨rfl, rfl⟩ | ⟨rfl, rfl⟩ <;> rfl

theorem readEntity?_eq_some
    {text rest : Text}
    {c : Char}
    (found : readEntity? text = some (c, rest)) :
    ∃ entity, (entity, c) ∈ entities ∧ text = entity ++ rest := by
  obtain ⟨⟨entity, d⟩, member, read⟩ := List.exists_of_findSome?_eq_some found
  obtain ⟨left, isAfter, same⟩ := Option.map_eq_some_iff.1 read
  cases same
  exact ⟨entity, member, Text.after?_eq_some.1 isAfter⟩

/-- Only an ampersand starts an entity. -/
theorem readEntity?_cons_of_ne
    {c : Char}
    (other : c ≠ '&')
    (rest : Text) :
    readEntity? (c :: rest) = none := by
  cases found : readEntity? (c :: rest) with
  | none => rfl
  | some read =>
      obtain ⟨entity, member, whole⟩ := readEntity?_eq_some found
      obtain ⟨name, rfl, -⟩ := exists_of_mem_entities member
      exact absurd (List.cons.inj whole).1 other

/-- What is behind an entity is shorter. -/
theorem length_lt_of_readEntity?
    {text rest : Text}
    {c : Char}
    (found : readEntity? text = some (c, rest)) :
    rest.length < text.length := by
  obtain ⟨entity, member, rfl⟩ := readEntity?_eq_some found
  obtain ⟨name, rfl, -⟩ := exists_of_mem_entities member
  simp only [List.length_append, List.length_cons]
  omega

/-- A text with its entities, from left to right, read as the characters they stand for. -/
def unescape : Text → Text
  | [] => []
  | c :: text =>
    match _ : readEntity? (c :: text) with
    | some (d, rest) => d :: unescape rest
    | none => c :: unescape text
termination_by text => text.length
decreasing_by
  · next found => exact length_lt_of_readEntity? found
  · exact Nat.lt_succ_self _

@[simp] theorem unescape_nil : unescape [] = [] := by rw [unescape]

theorem unescape_entity
    {entity : Text}
    {c : Char}
    (member : (entity, c) ∈ entities)
    (rest : Text) :
    unescape (entity ++ rest) = c :: unescape rest := by
  have found := readEntity?_append member rest
  obtain ⟨name, rfl, -⟩ := exists_of_mem_entities member
  rw [List.cons_append] at found ⊢
  rw [unescape]
  split
  · next read =>
      cases read.symm.trans found
      rfl
  · next missing => cases missing.symm.trans found

theorem unescape_plain
    {c : Char}
    (other : c ≠ '&')
    (rest : Text) :
    unescape (c :: rest) = c :: unescape rest := by
  have missing := readEntity?_cons_of_ne other rest
  rw [unescape]
  split
  · next found => cases missing.symm.trans found
  · rfl

/-- Escaping is undone by reading the entities from left to right. -/
theorem unescape_escape (text : Text) : unescape (escape text) = text := by
  induction text with
  | nil => exact unescape_nil
  | cons c text inductionHypothesis =>
      rw [escape_cons]
      rcases escapeChar_entity_or_plain c with member | ⟨same, plain⟩
      · rw [unescape_entity member, inductionHypothesis]
      · have other : c ≠ '&' := by
          rintro rfl
          exact plain (by decide)
        rw [same, List.singleton_append, unescape_plain other, inductionHypothesis]

/-- Of the reserved characters only the ampersand occurs in escaped text. -/
theorem mem_escape
    {text : Text}
    {c : Char}
    (member : c ∈ escape text) :
    c = '&' ∨ c ∉ reserved := by
  obtain ⟨d, -, written⟩ := List.mem_flatMap.1 member
  rcases escapeChar_entity_or_plain d with isEntity | ⟨same, plain⟩
  · obtain ⟨name, shape, others⟩ := exists_of_mem_entities isEntity
    rw [shape] at written
    exact (List.mem_cons.1 written).imp id (others c)
  · rw [same] at written
    obtain rfl := List.mem_singleton.1 written
    exact .inr plain

/-- A reserved character other than the ampersand does not occur in escaped text. -/
theorem not_mem_escape
    {c : Char}
    (isReserved : c ∈ reserved)
    (other : c ≠ '&')
    (text : Text) :
    c ∉ escape text :=
  fun member => (mem_escape member).elim other (absurd isReserved)

/-- Every ampersand in escaped text starts an entity. -/
theorem entity_of_escape_eq
    {text before behind : Text}
    (whole : escape text = before ++ '&' :: behind) :
    ∃ entity ∈ entities, entity.1 <+: '&' :: behind := by
  induction text generalizing before with
  | nil => simp at whole
  | cons c text inductionHypothesis =>
      rw [escape_cons] at whole
      rcases escapeChar_entity_or_plain c with isEntity | ⟨same, plain⟩
      · obtain ⟨name, shape, others⟩ := exists_of_mem_entities isEntity
        rcases List.append_eq_append_iff.1 whole with ⟨more, -, rest⟩ | ⟨more, split, rest⟩
        · exact inductionHypothesis rest
        · -- the ampersand lies in the entity, which has it at its start only
          cases before with
          | nil => exact ⟨_, isEntity, ⟨escape text, by simpa using whole⟩⟩
          | cons d before =>
              cases more with
              | nil => exact @inductionHypothesis [] rest.symm
              | cons e more =>
                  obtain rfl := (List.cons.inj rest).1
                  rw [shape, List.cons_append] at split
                  have inside : '&' ∈ name := by
                    rw [(List.cons.inj split).2]
                    simp
                  exact absurd (by decide) (others '&' inside)
      · rw [same, List.singleton_append] at whole
        cases before with
        | nil =>
            obtain rfl := (List.cons.inj whole).1
            exact absurd (by decide) plain
        | cons d before => exact inductionHypothesis (List.cons.inj whole).2

end Markup
end CharacterSheet
