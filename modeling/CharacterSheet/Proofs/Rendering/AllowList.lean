import CharacterSheet.Pattern.Linear
import CharacterSheet.Proofs.Markup.Marks
import CharacterSheet.Proofs.Rendering.Mentions

/-!
# The allow-list in the final document

`TOOLTIP` checks its body against the allow-list before the tokens in it give way to
the markup of nested tooltips. What that does to the body is told by its marks
(`Placeholders.exists_grown`): as long as tokens stand between marks and the markup in
their place nests on its own, a filled body has its own marks and, between them, those
of all markup that it mentions. So it passes the allow-list exactly if each of these
markups does as a whole, anchors and style classes included
(`Engine.filled_body_allowed_iff`), which nothing checks.
-/

namespace CharacterSheet

namespace Markup

/-- Whether no token opens within a mark. -/
def tokensApart (html : Text) : Bool :=
  match pieces html with
  | .ok cut => (cut.filterMap Piece.mark?).all fun mark => !Text.contains TokenPart.opener mark
  | .error _ => true

theorem not_infix_of_tokensApart
    {html : Text}
    {marks : List Text}
    (apart : tokensApart html = true)
    (marked : Marked html marks) :
    ∀ mark ∈ marks, ¬ TokenPart.opener <:+: mark := by
  obtain ⟨cut, whole, rfl⟩ := marked_iff.1 marked
  intro mark member
  unfold tokensApart at apart
  rw [whole] at apart
  have absent := List.all_eq_true.1 apart mark member
  rw [← Text.cut?_eq_none_iff]
  simpa [Text.contains] using absent

/-- Markup that can be put in place of a token: it nests on its own, and no token opens
within its marks. -/
structure Placeable (html : Text) : Prop where
  valid : validate none html = .ok ()
  apart : tokensApart html = true

/-- Whether markup has a mark. -/
def HasMark (html mark : Text) : Prop := ∃ marks, Marked html marks ∧ mark ∈ marks

theorem Marked.mem_iff
    {html mark : Text}
    {marks : List Text}
    (marked : Marked html marks) :
    mark ∈ marks ↔ HasMark html mark := by
  constructor
  · exact fun member => ⟨marks, marked, member⟩
  · rintro ⟨other, also, member⟩
    rwa [marked.unique also]

/-- The bracket of a mark keeps another one from starting before it. -/
theorem startsMark_of_head?
    {html : Text}
    (begins : html.head? = some '<') :
    startsMark html = false := by
  cases html with
  | nil => rfl
  | cons c html =>
      cases begins
      rfl

end Markup

open Markup

namespace Tooltip

/-- The body of a tooltip stands behind the role of the content. -/
theorem exists_markup_eq (style id anchor body : Text) :
    ∃ leading : Text, markup style id anchor body =
      leading ++ ("' role='tooltip'>".toList ++ (body ++ "</span>".toList)) := by
  unfold markup
  exact ⟨_, (List.append_assoc _ _ _).trans (List.append_assoc _ _ _)⟩

end Tooltip

namespace Placeholders

variable {placeholders : Placeholders}

/-- How marks grow when the tokens of a text are filled: the marks of what the text
mentions are added, and the nesting stays. -/
structure Grown
    (placeholders : Placeholders)
    (text : Text)
    (marks grown : List Text) : Prop where
  mem_iff : ∀ mark, mark ∈ grown ↔
    mark ∈ marks ∨ ∃ html, placeholders.Mentions text html ∧ HasMark html mark
  nests : ∀ opened left, Nests opened marks left → Nests opened grown left

/-- In front of the marks of the rest, the marks of the first token's markup are added. -/
theorem Grown.token
    {before rest first : Text}
    {id : String}
    {leading inner innerGrown following followingGrown : List Text}
    (clear : ¬ TokenPart.opener <:+: before)
    (isWord : Identifier.IsWord id.toList)
    (known : placeholders.get? id = some first)
    (marked : Marked first inner)
    (nested : Nests [] inner [])
    (inside : Grown placeholders first inner innerGrown)
    (further : Grown placeholders rest following followingGrown) :
    Grown placeholders (before ++ TokenPart.tokenText id ++ rest) (leading ++ following)
      (leading ++ innerGrown ++ followingGrown) where
  mem_iff mark := by
    simp only [List.mem_append, inside.mem_iff, further.mem_iff, marked.mem_iff,
      mentions_token_iff clear isWord known, or_and_right, exists_or, exists_eq_left]
    exact iff_of_eq (by ac_rfl)
  nests opened left nests := by
    obtain ⟨between, leads, follows⟩ := Nests.append_iff.1 nests
    have balanced := (inside.nests [] [] nested).balanced between
    exact Nests.append_iff.2
      ⟨between, Nests.append_iff.2 ⟨between, leads, balanced⟩, further.nests _ _ follows⟩

/-- A text that is filled with placeable markup has its marks and those of all that it
mentions. -/
theorem exists_grown
    {levels : Nat}
    {text filled : Text}
    {marks : List Text}
    (filed : placeholders.Filed Framed)
    (placeable : ∀ html, placeholders.Mentions text html → Placeable html)
    (marked : Marked text marks)
    (apart : ∀ mark ∈ marks, ¬ TokenPart.opener <:+: mark)
    (substituted : placeholders.substituteWithin levels text = .ok filled) :
    ∃ grown, Marked filled grown ∧ Grown placeholders text marks grown := by
  induction levels generalizing text filled marks with
  | zero => cases substituted
  | succ levels inductionHypothesis =>
      have run := filled_of_substituteWithin substituted
      clear substituted
      induction run generalizing marks with
      | plain clear =>
          refine ⟨marks, marked, fun mark => ?_, fun _ _ => id⟩
          simp [not_mentions_of_clear clear]
      | @token before rest filled first shown id clear known inside further restHypothesis =>
          obtain ⟨isWord, framed⟩ := filed.get? known
          simp only [mentions_token_iff clear isWord known] at placeable
          have outside : ∀ mark ∈ marks, ¬ TokenPart.tokenText id <:+: mark := by
            intro mark member occurs
            exact apart mark member ((TokenPart.opener_infix_tokenText id).trans occurs)
          obtain ⟨leading, following, leads, follows, rfl⟩ :=
            marked.exists_of_append (TokenPart.tokenText_ne_nil id)
              (TokenPart.not_mem_tokenText isWord rfl (by decide))
              (TokenPart.not_mem_tokenText isWord rfl (by decide)) outside
          obtain ⟨followingGrown, followed, further⟩ := restHypothesis
            (fun html mentions => placeable html (Or.inr (Or.inr mentions))) follows
            (fun mark member => apart mark (List.mem_append_right leading member))
          have here : Placeable first := placeable first (Or.inl rfl)
          obtain ⟨inner, innerMarked, nested⟩ := validate_none_eq_ok_iff.1 here.valid
          obtain ⟨innerGrown, shownMarked, grown⟩ := inductionHypothesis
            (fun html mentions => placeable html (Or.inr (Or.inl mentions))) innerMarked
            (not_infix_of_tokensApart here.apart innerMarked) inside
          -- the brackets of the tooltip keep marks apart on both sides
          have shownFramed := (clear_of_substituteWithin filed.framed inside).2 framed
          have joined := leads.append shownMarked fun _ =>
            startsMark_of_head? shownFramed.opened
          refine ⟨_, joined.append followed ?_,
            .token clear isWord known innerMarked nested grown further⟩
          rw [List.getLast?_append, shownFramed.closed]
          simp

/-- A filled body passes an allow-list that it passed before exactly if all markup that
it mentions does. -/
theorem validate_filled_iff
    {names : List String}
    {levels : Nat}
    {body filled : Text}
    (filed : placeholders.Filed Framed)
    (allowed : validate (some names) body = .ok ())
    (apart : tokensApart body = true)
    (placeable : ∀ html, placeholders.Mentions body html → Placeable html)
    (substituted : placeholders.substituteWithin levels body = .ok filled) :
    validate (some names) filled = .ok () ↔
      ∀ html, placeholders.Mentions body html → validate (some names) html = .ok () := by
  obtain ⟨marks, marked, permitted, nested⟩ := validate_some_eq_ok_iff.1 allowed
  obtain ⟨grown, filledMarked, grows⟩ :=
    exists_grown filed placeable marked (not_infix_of_tokensApart apart marked) substituted
  constructor
  · intro valid html mentions
    obtain ⟨others, alsoMarked, allPermitted, -⟩ := validate_some_eq_ok_iff.1 valid
    obtain rfl := filledMarked.unique alsoMarked
    obtain ⟨inner, innerMarked, innerNested⟩ :=
      validate_none_eq_ok_iff.1 (placeable html mentions).valid
    refine validate_some_eq_ok_iff.2 ⟨inner, innerMarked, fun mark member => ?_, innerNested⟩
    exact allPermitted mark
      ((grows.mem_iff mark).2 (Or.inr ⟨html, mentions, inner, innerMarked, member⟩))
  · intro valid
    refine validate_some_eq_ok_iff.2
      ⟨grown, filledMarked, fun mark member => ?_, grows.nests [] [] nested⟩
    rcases (grows.mem_iff mark).1 member with own | ⟨html, mentions, inner, innerMarked, within⟩
    · exact permitted mark own
    · obtain ⟨others, alsoMarked, allPermitted, -⟩ :=
        validate_some_eq_ok_iff.1 (valid html mentions)
      obtain rfl := innerMarked.unique alsoMarked
      exact allPermitted mark within

end Placeholders

namespace Engine

variable (engine : Engine)

/-- With the built-in handlers every tooltip of an outermost rendering has a body that
passes the allow-list as it was registered. With its tokens filled it still passes, where
they stand between marks and stand for markup that nests on its own, exactly if all the
markup that they stand for passes too, at every level of nesting. -/
theorem filled_body_allowed_iff
    (builtin : engine.registry = .builtin)
    (scope : Scope)
    (text : Text)
    {journal : Journal}
    (outermost : journal.depth = 0) :
    let placeholders := ((engine.render scope text).on journal).2.placeholders
    ∀ entry ∈ placeholders.entries, ∃ style? word anchor body,
      entry.2 = Tooltip.markup (Tooltip.anchorClass style?)
        (Identifier.ofWord word).toList anchor body ∧
      validate (some tooltipElements) body = .ok () ∧
      ∀ filled,
        placeholders.substitute body = .ok filled →
        tokensApart body = true →
        (∀ html, placeholders.Mentions body html → Placeable html) →
        (validate (some tooltipElements) filled = .ok () ↔
          ∀ html, placeholders.Mentions body html →
            validate (some tooltipElements) html = .ok ()) := by
  intro placeholders entry member
  have handlers : engine.registry.Meets engine.setting (Tooltip.Registered engine.setting) := by
    rw [builtin]
    exact Registry.meets_builtin engine.setting
  have filed : placeholders.Filed (Tooltip.Registered engine.setting) :=
    engine.filed_of_render handlers scope text outermost
  obtain ⟨-, registered⟩ := filed entry member
  generalize entry.2 = html at registered
  obtain ⟨-, -, allowed⟩ := registered
  refine ⟨_, _, _, _, rfl, allowed, fun filled substituted apart placeable => ?_⟩
  exact Placeholders.validate_filled_iff (filed.mono fun _ => Tooltip.Registered.framed)
    allowed apart placeable substituted

/-- The anchor of a nested tooltip is not checked, and so its script is in the body of the
outer one. -/
theorem filled_body_refused_of_script :
    let engine : Engine :=
      { config := {}
        registry := .builtin
        rules := ⟨[]⟩
        patterns := .linear
        words := .counting 0 }
    let scope : Scope := { character := .object [] }
    let text : Text :=
      "\x7b\x7bTOOLTIP:a,\x7b\x7bTOOLTIP:<script>x</script>,b\x7d\x7d\x7d\x7d".toList
    let rendered := (engine.render scope text).on {}
    let tooltip := Tooltip.markup "tooltip-anchor".toList
    let body : Text := "@@TT:1@@".toList
    let filled := tooltip "0".toList "<script>x</script>".toList "b".toList
    rendered.1 = .ok (tooltip "2".toList "a".toList filled) ∧
      ("3", tooltip "2".toList "a".toList body) ∈ rendered.2.placeholders.entries ∧
      rendered.2.placeholders.substitute body = .ok filled ∧
      validate (some tooltipElements) filled = .error (.notAllowed "script") := by
  intro engine scope text rendered tooltip body filled
  have whole : (rendered.1, rendered.2.placeholders) =
      (.ok (tooltip "2".toList "a".toList filled),
        { entries := [("3", tooltip "2".toList "a".toList body), ("1", filled)]
          drawn := 4 }) := by
    decide +kernel
  obtain ⟨made, kept⟩ := Prod.mk.inj whole
  rw [kept]
  refine ⟨made, List.mem_cons_self, ?_, ?_⟩
  · decide +kernel
  · decide +kernel

/-- A paragraph with a tooltip in it, in the body of another one. -/
theorem filled_body_allowed_of_paragraph :
    let engine : Engine :=
      { config := {}
        registry := .builtin
        rules := ⟨[]⟩
        patterns := .linear
        words := .counting 0 }
    let scope : Scope := { character := .object [] }
    let text : Text :=
      "\x7b\x7bTOOLTIP:a,<p>\x7b\x7bTOOLTIP:b,c\x7d\x7d</p>\x7d\x7d".toList
    let placeholders := ((engine.render scope text).on {}).2.placeholders
    let tooltip := Tooltip.markup "tooltip-anchor".toList
    let body : Text := "<p>@@TT:1@@</p>".toList
    let nested := tooltip "0".toList "b".toList "c".toList
    let filled : Text := "<p>".toList ++ nested ++ "</p>".toList
    ("3", tooltip "2".toList "a".toList body) ∈ placeholders.entries ∧
      placeholders.substitute body = .ok filled ∧
      validate (some tooltipElements) filled = .ok () := by
  intro engine scope text placeholders tooltip body nested filled
  have kept : placeholders =
      { entries := [("3", tooltip "2".toList "a".toList body), ("1", nested)], drawn := 4 } := by
    decide +kernel
  have member : ("3", tooltip "2".toList "a".toList body) ∈ placeholders.entries := by
    rw [kept]
    exact List.mem_cons_self
  have known : placeholders.get? "1" = some nested := by
    rw [kept]
    rfl
  have substituted : placeholders.substitute body = .ok filled := by
    rw [kept]
    decide +kernel
  obtain ⟨style?, word, anchor, inner, same, -, exactly⟩ :=
    engine.filled_body_allowed_iff rfl scope text rfl _ member
  -- the role of a content is written once, so there is only one body to be found
  have once : ∀ place < (tooltip "2".toList "a".toList body).length,
      "' role='tooltip'>".toList <+: (tooltip "2".toList "a".toList body).drop place →
        place = 95 := by
    decide +kernel
  obtain ⟨leading, whole⟩ := Tooltip.exists_markup_eq
    (Tooltip.anchorClass style?) (Identifier.ofWord word).toList anchor inner
  have found := Text.eq_drop_of_occurs_once (List.cons_ne_nil _ _) once (same.trans whole)
  have behind : (tooltip "2".toList "a".toList body).drop 95 =
      "' role='tooltip'>".toList ++ (body ++ "</span>".toList) := by
    decide +kernel
  obtain rfl : body = inner :=
    List.append_cancel_right (List.append_cancel_left (behind.symm.trans found))
  have onlyNested : ∀ html, placeholders.Mentions body html → html = nested := by
    intro html mentions
    have clear : ¬ TokenPart.opener <:+: nested := by decide +kernel
    have isWord : Identifier.IsWord "1".toList := by
      rintro c member
      obtain rfl := List.mem_singleton.1 member
      rfl
    have parts := @Placeholders.mentions_token_iff placeholders "<p>".toList "</p>".toList
      nested html "1" (by decide) isWord known
    rcases parts.1 mentions with same | within | behind
    · exact same
    · exact absurd within (Placeholders.not_mentions_of_clear clear)
    · exact absurd behind (Placeholders.not_mentions_of_clear (by decide))
  have valid : validate (some tooltipElements) nested = .ok () := by decide +kernel
  refine ⟨member, substituted, (exactly filled substituted (by decide +kernel) ?_).2 ?_⟩
  · intro html mentions
    obtain rfl := onlyNested html mentions
    exact ⟨by decide +kernel, by decide +kernel⟩
  · intro html mentions
    obtain rfl := onlyNested html mentions
    exact valid

end Engine

end CharacterSheet
