import CharacterSheet.Proofs.Markup.Escape
import CharacterSheet.Proofs.Markup.Typography
import CharacterSheet.Proofs.Rendering.Growth

/-!
# The mark of a fault

A lenient rendering puts a mark into the text that it goes on to look through, and the mark
quotes messages, notation and names that may hold anything. All of it is escaped, so a mark
has its own two tags only (`Engine.marked_errorMark`) and no brace: it is inert
(`Markup.Inert`) whatever it quotes, before and after it is typeset.
-/

namespace CharacterSheet

namespace Markup

/-- Markup that does not disturb the text it stands in: no notation opens or closes in it, and
it is valid on its own. -/
structure Inert (html : Text) : Prop where
  unopened : ¬ spanOpener <:+: html
  unclosed : ¬ spanCloser <:+: html
  valid : validate none html = .ok ()

/-- Typography does not change what a check answers. -/
theorem validate_normalize (allowed? : Option (List String)) (html : Text) :
    validate allowed? (normalize html) = validate allowed? html := by
  rw [validate_eq_marks, validate_eq_marks, marks_normalize]

/-- Inert markup stays so when it is typeset. -/
theorem Inert.normalize
    {html : Text}
    (inert : Inert html) :
    Inert (normalize html) where
  unopened occurs :=
    inert.unopened ((retouched_normalize html).occurs_already (by decide) (by decide) occurs)
  unclosed occurs :=
    inert.unclosed ((retouched_normalize html).occurs_already (by decide) (by decide) occurs)
  valid := (validate_normalize none html).trans inert.valid

/-- A text without brackets has no marks. -/
theorem marked_of_not_mem
    {text : Text}
    (unopened : '<' ∉ text) :
    Marked text [] := by
  induction text with
  | nil => exact .nil
  | cons c text inductionHypothesis =>
      rw [List.mem_cons, not_or] at unopened
      exact .plain (fun starts => unopened.1 starts.1.symm) (inductionHypothesis unopened.2)

end Markup

open Markup

namespace Engine

/-- What the mark of a fault shows between its tags. -/
def quoted (message source context location : Text) : Text :=
  escape message ++ " | Notation: ".toList ++ escape source ++ " | Context: ".toList ++
    escape context ++ " | Location: ".toList ++ escape location

section

variable (message source context location : Text)

theorem errorMark_eq_enclosed :
    errorMark message source context location =
      "<span class='inline-error'>".toList ++ quoted message source context location ++
        "</span>".toList := by
  unfold errorMark quoted
  simp only [List.append_assoc]

variable {message source context location}

/-- A mark quotes nothing that is reserved in markup or notation. -/
theorem not_mem_quoted
    {c : Char}
    (isReserved : c ∈ reserved)
    (other : c ≠ '&') :
    c ∉ quoted message source context location := by
  have plain {label : Text} (apart : (reserved.all fun c => c = '&' ∨ c ∉ label) = true) :
      c ∉ label :=
    (of_decide_eq_true (List.all_eq_true.1 apart c isReserved)).resolve_left other
  have escaped (text : Text) : c ∉ escape text := not_mem_escape isReserved other text
  intro member
  simp only [quoted, List.mem_append] at member
  rcases member with (((((shown | label) | shown) | label) | shown) | label) | shown
  all_goals first
    | exact escaped _ shown
    | exact plain (by decide) label

/-- The marks of the mark of a fault are its two tags. -/
theorem marked_errorMark :
    Marked (errorMark message source context location)
      ["<span class='inline-error'>".toList, "</span>".toList] := by
  have opening : Marked "<span class='inline-error'>".toList
      ["<span class='inline-error'>".toList] :=
    marked_iff.2 ⟨_, rfl, rfl⟩
  have closing : Marked "</span>".toList ["</span>".toList] := marked_iff.2 ⟨_, rfl, rfl⟩
  have unopened : '<' ∉ quoted message source context location :=
    not_mem_quoted (by decide) (by decide)
  rw [errorMark_eq_enclosed]
  refine (opening.append (marked_of_not_mem unopened) ?_).append closing ?_
  · exact fun ends => absurd ends (by decide)
  · exact fun _ => rfl

/-- A mark holds no brace. -/
theorem not_mem_errorMark
    {c : Char}
    (isBrace : c ∈ ['{', '}']) :
    c ∉ errorMark message source context location := by
  obtain ⟨isReserved, other, opening, closing⟩ : c ∈ reserved ∧ c ≠ '&' ∧
      c ∉ "<span class='inline-error'>".toList ∧ c ∉ "</span>".toList := by
    simp only [List.mem_cons, List.not_mem_nil, or_false] at isBrace
    rcases isBrace with rfl | rfl <;> decide
  rw [errorMark_eq_enclosed, List.mem_append, List.mem_append, not_or, not_or]
  exact ⟨⟨opening, not_mem_quoted isReserved other⟩, closing⟩

/-- The mark of a fault is inert, whatever it quotes. -/
theorem inert_errorMark : Inert (errorMark message source context location) where
  unopened occurs := not_mem_errorMark (by decide) (occurs.subset (List.mem_cons_self (a := '{')))
  unclosed occurs := not_mem_errorMark (by decide) (occurs.subset (List.mem_cons_self (a := '}')))
  valid := validate_none_eq_ok_iff.2 ⟨_, marked_errorMark, by rfl⟩

end

/-- Escaped text is inert and can be read back. Reading its entities from left to right gives
the text, so no two texts are escaped alike; no angle bracket, quote or brace is left, and no
ampersand but at the start of an entity. So the mark of a fault neither opens nor closes
notation and is valid markup, also when it is typeset, whatever message, notation, context and
location it quotes, and every mark that a rendering shows is one of these. -/
theorem escaped_text_is_inert :
    (∀ text, unescape (escape text) = text) ∧
      Function.Injective escape ∧
      (∀ text, ∀ c ∈ ['<', '>', '"', '\'', '{', '}'], c ∉ escape text) ∧
      (∀ text before behind, escape text = before ++ '&' :: behind →
        ∃ entity ∈ entities, entity.1 <+: '&' :: behind) ∧
      (∀ message source context location,
        Inert (errorMark message source context location) ∧
          Inert (normalize (errorMark message source context location))) ∧
      ∀ scope fault source lines journal, ∃ mark after,
        (showFault scope fault source lines).on journal = (.ok mark, after) ∧
          Inert mark ∧ Inert (normalize mark) := by
  have apart : ∀ c ∈ ['<', '>', '"', '\'', '{', '}'], c ∈ reserved ∧ c ≠ '&' := by
    simp [reserved, entities]
  refine ⟨unescape_escape, Function.LeftInverse.injective unescape_escape, ?_,
    fun _ _ _ => entity_of_escape_eq, fun _ _ _ _ => ⟨inert_errorMark, inert_errorMark.normalize⟩,
    ?_⟩
  · intro text c listed
    obtain ⟨isReserved, other⟩ := apart c listed
    exact not_mem_escape isReserved other text
  · intro scope fault source lines journal
    exact ⟨_, _, on_showFault scope fault source lines journal, inert_errorMark,
      inert_errorMark.normalize⟩

end Engine

end CharacterSheet
