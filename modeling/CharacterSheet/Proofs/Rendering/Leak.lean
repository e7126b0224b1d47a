import CharacterSheet.Pattern.Linear
import CharacterSheet.Proofs.Rendering.Mentions

/-!
# Notation that is left in a document

A document is checked for notation after its tooltips were put in place. With the
built-in handlers the check fails exactly if the text mentions a tooltip that leaks
(`Engine.render_leaves_notation_iff`): one with notation in its style classes, which
`TOOLTIP` does not expand, or one whose body shows a value that is referred to as it
is, a list for example, with notation in it. Anchors, texts and records are expanded
before they are kept aside, so they never leave any.
-/

namespace CharacterSheet

namespace Tooltip

/-- Markup with notation in it that is never expanded: in the style classes of the
anchor, or in a body that shows a value as it is. -/
inductive Leak (setting : Setting) : Text → Prop
  | style
      {style? : Option Text}
      {word : UInt64}
      {anchor body : Text}
      (written : spanOpener <:+: anchorClass style?) :
      Leak setting (markup (anchorClass style?) (Identifier.ofWord word).toList anchor body)
  | body
      {style? : Option Text}
      {word : UInt64}
      {anchor : Text}
      {scope : Scope}
      {reference : Text}
      {value : Value}
      (resolved : setting.resolve scope reference = .ok value)
      (verbatim : Verbatim value)
      (written : spanOpener <:+: value.shown) :
      Leak setting
        (markup (anchorClass style?) (Identifier.ofWord word).toList anchor value.shown)

/-- Text without braces keeps two sides apart. -/
theorem spanOpener_infix_apart_iff
    {left tag right : Text}
    (proper : tag ≠ [])
    (absent : '{' ∉ tag) :
    spanOpener <:+: left ++ tag ++ right ↔ spanOpener <:+: left ∨ spanOpener <:+: right := by
  rw [spanOpener_infix_append_between_iff proper
    (fun begins => absent (List.mem_of_head? begins))
    (fun ends => absent (List.mem_of_getLast? ends))]
  simp only [(Passed.of_not_mem absent).clear, false_or]

/-- The tags of a tooltip hold no notation, so what holds it is one of the parts. -/
theorem spanOpener_infix_markup_iff
    {style id anchor body : Text}
    (isWord : Identifier.IsWord id) :
    spanOpener <:+: markup style id anchor body ↔
      spanOpener <:+: style ∨ spanOpener <:+: anchor ∨ spanOpener <:+: body := by
  have unbraced : '{' ∉ id := fun member => absurd (isWord '{' member) (by decide)
  have assembled (first second third fourth fifth last : Text)
      (proper : ∀ tag ∈ [first, second, fourth, last], tag ≠ [])
      (absent : ∀ tag ∈ [first, second, third, fourth, fifth, last], '{' ∉ tag) :
      spanOpener <:+: first ++ style ++ second ++ id ++ third ++ anchor ++ fourth ++ id ++ fifth ++
          body ++ last ↔
        spanOpener <:+: style ∨ spanOpener <:+: anchor ∨ spanOpener <:+: body := by
    have whole : first ++ style ++ second ++ id ++ third ++ anchor ++ fourth ++ id ++ fifth ++
          body ++ last =
        [] ++ first ++ (style ++ (second ++ id ++ third) ++
          (anchor ++ (fourth ++ id ++ fifth) ++ (body ++ last ++ []))) := by
      simp only [List.append_assoc, List.nil_append, List.append_nil]
    simp only [List.forall_mem_cons] at proper absent
    rw [whole, spanOpener_infix_apart_iff proper.1 absent.1,
      spanOpener_infix_apart_iff (by simp [proper]) (by simp [absent, unbraced]),
      spanOpener_infix_apart_iff (by simp [proper]) (by simp [absent, unbraced]),
      spanOpener_infix_apart_iff (by simp [proper]) (by simp [absent])]
    simp [spanOpener]
  exact assembled "<span class='".toList "' data-tooltip='tt-".toList "'>".toList
    "</span><span class='tooltip-content' id='tt-".toList "' role='tooltip'>".toList
    "</span>".toList (by simp) (by simp)

/-- Markup that `TOOLTIP` registers holds notation exactly if it leaks. -/
theorem Registered.written_iff_leak
    {setting : Setting}
    {html : Text}
    (registered : Registered setting html) :
    spanOpener <:+: html ↔ Leak setting html := by
  constructor
  · intro written
    obtain ⟨anchorClear, isBody, -⟩ := registered
    rcases (spanOpener_infix_markup_iff (Identifier.isWord_ofWord _)).1 written with
      inStyle | inAnchor | inBody
    · exact .style inStyle
    · exact absurd inAnchor anchorClear
    · cases isBody with
      | expanded clear => exact absurd inBody clear
      | shown resolved verbatim => exact .body resolved verbatim inBody
  · intro leak
    cases leak with
    | style written =>
        exact (spanOpener_infix_markup_iff (Identifier.isWord_ofWord _)).2 (Or.inl written)
    | body resolved verbatim written =>
        exact (spanOpener_infix_markup_iff (Identifier.isWord_ofWord _)).2
          (Or.inr (Or.inr written))

end Tooltip

namespace Placeholders

/-- Putting tooltips in place never finds notation. -/
theorem substituteWithin_ne_notationLeft
    (placeholders : Placeholders)
    (levels : Nat)
    (text : Text)
    (start : String) :
    placeholders.substituteWithin levels text ≠ .error (.notationLeft start) := by
  induction levels generalizing text with
  | zero => exact nofun
  | succ levels inductionHypothesis =>
      rw [substituteWithin_succ]
      intro failed
      cases parts : (TokenPart.ofText text).mapM (placeholders.filling levels) with
      | ok texts =>
          rw [parts] at failed
          cases failed
      | error cause =>
          rw [parts] at failed
          cases failed
          obtain ⟨part, -, fails⟩ := exists_of_mapM_eq_error parts
          cases part with
          | plain | unclosed => cases fails
          | token id =>
              cases known : placeholders.get? id with
              | none => simp [filling, known] at fails
              | some html =>
                  simp only [filling, known] at fails
                  exact inductionHypothesis html fails

end Placeholders

namespace Engine

variable (engine : Engine)

/-- The check for notation fails exactly on a text that holds some. -/
theorem checkNoNotation_eq_error_iff {text : Text} :
    (∃ start, checkNoNotation text = .error (.assembly (.notationLeft start))) ↔
      spanOpener <:+: text := by
  unfold checkNoNotation
  cases cut : Text.cut? spanOpener text with
  | none => simp [Text.cut?_eq_none_iff.1 cut]
  | some parts =>
      have occurs : spanOpener <:+: text := by
        by_contra absent
        rw [Text.cut?_eq_none_iff.2 absent] at cut
        cases cut
      simp [occurs]

/-- A document is refused for notation exactly if some is left once the tooltips are in
place. -/
theorem document_leaves_notation_iff
    {placeholders : Placeholders}
    {text : Text} :
    (∃ start, engine.document placeholders text = .error (.assembly (.notationLeft start))) ↔
      ∃ settled, engine.settled placeholders text = .ok settled ∧ spanOpener <:+: settled := by
  unfold document
  cases settles : engine.settled placeholders text with
  | error fault =>
      simp only [reduceCtorEq, false_and, exists_false, iff_false, not_exists]
      rintro start ⟨⟩
      obtain ⟨cause, substituted, same⟩ := engine.substitute_of_settled_eq_error settles
      cases same
      exact placeholders.substituteWithin_ne_notationLeft _ _ _ substituted
  | ok settled =>
      simp only [Except.ok.injEq, exists_eq_left', ← checkNoNotation_eq_error_iff]
      cases checked : checkNoNotation settled with
      | error fault => simp
      | ok _ => cases Markup.validate none (engine.typeset settled) <;> simp

/-- With the built-in handlers notation is left in a document exactly if the tooltips
are put in place and the expanded text mentions one that leaks. -/
theorem render_leaves_notation_iff
    (builtin : engine.registry = .builtin)
    (scope : Scope)
    (text : Text)
    {journal : Journal}
    (outermost : journal.depth = 0) :
    (∃ start, ((engine.render scope text).on journal).1 =
        .error (.assembly (.notationLeft start))) ↔
      engine.config.preservePlaceholders = false ∧
        ∃ expanded between settled,
          (engine.expand scope text).on journal.renewed = (.ok expanded, between) ∧
          between.placeholders.substitute expanded = .ok settled ∧
          ∃ html, between.placeholders.Mentions expanded html ∧
            Tooltip.Leak engine.setting html := by
  have handlers : engine.registry.Meets engine.setting (Tooltip.Registered engine.setting) := by
    rw [builtin]
    exact Registry.meets_builtin engine.setting
  obtain ⟨spans, expansion⟩ : Performs engine (engine.expand scope text)
      (.expand scope text) journal.renewed := Performs.expand scope text journal.renewed
  obtain ⟨filed, fails⟩ := expansion.meets_of_expand handlers
    (Placeholders.filed_clear journal.placeholders)
  rw [engine.on_render_outermost scope text outermost]
  rcases expands : (engine.expand scope text).on journal.renewed with
    ⟨fault | expanded, between⟩
  · rw [Action.on_bind_of_error expands]
    rw [expands] at fails
    constructor
    · rintro ⟨start, ⟨⟩⟩
      cases fails _ rfl
    · rintro ⟨-, _, _, _, ⟨⟩, -⟩
  · rw [Action.on_bind_of_ok expands, engine.on_finalize, document_leaves_notation_iff]
    rw [expands] at expansion filed
    have clear : ¬ spanOpener <:+: expanded := expansion.clear_of_expand
    have left {settled : Text}
        (substituted : between.placeholders.substitute expanded = .ok settled) :
        spanOpener <:+: settled ↔
          ∃ html, between.placeholders.Mentions expanded html ∧
            Tooltip.Leak engine.setting html := by
      rw [Placeholders.spanOpener_infix_filled_iff
        (filed.mono fun _ => Tooltip.Registered.framed) substituted]
      simp only [clear, false_or]
      refine exists_congr fun html => and_congr_right fun mentions => ?_
      exact (mentions.of_filed filed).written_iff_leak
    cases preserved : engine.config.preservePlaceholders with
    | true => simp [settled, preserved, clear]
    | false =>
        simp only [engine.settled_eq_ok_iff preserved]
        constructor
        · rintro ⟨settled, substituted, written⟩
          have leaks := (left substituted).1 written
          exact ⟨trivial, expanded, between, settled, rfl, substituted, leaks⟩
        · rintro ⟨-, _, _, settled, ⟨⟩, substituted, mentioned⟩
          exact ⟨settled, substituted, (left substituted).2 mentioned⟩

/-- The list of notes of an entity is shown as it is, with the notation in it. -/
theorem render_leaves_notation_of_list :
    let engine : Engine :=
      { config := {}
        registry := .builtin
        rules := ⟨[]⟩
        patterns := .linear
        words := .counting 0 }
    let scope : Scope :=
      { character := .object [("name", .string "Ada")]
        entity? := some (.object [("notes", .array [.string "\x7b\x7bNAME\x7d\x7d"])]) }
    ((engine.render scope "\x7b\x7bTOOLTIP:x,this.notes\x7d\x7d".toList).on {}).1 =
      .error (.assembly (.notationLeft "\x7b\x7bNAME\x7d\x7d</span>")) := by
  decide +kernel

/-- The style classes of an anchor are not expanded, also under a lenient policy. -/
theorem render_leaves_notation_of_class :
    let engine : Engine :=
      { config := {}
        registry := .builtin
        rules := ⟨[]⟩
        patterns := .linear
        words := .counting 0 }
    let scope : Scope :=
      { character := .object [("name", .string "Ada")], policy := { strict := false } }
    let text : Text := "\x7b\x7bTOOLTIP:.\x7b\x7bNAME\x7d\x7d,a,b\x7d\x7d".toList
    (∃ start, ((engine.render scope text).on {}).1 =
        .error (.assembly (.notationLeft start))) ∧
      ∃ expanded between html,
        (engine.expand scope text).on {} = (.ok expanded, between) ∧
        between.placeholders.Mentions expanded html ∧
        Tooltip.Leak engine.setting html := by
  intro engine scope text
  have failed : ((engine.render scope text).on {}).1 =
      .error (.assembly (.notationLeft
        "\x7b\x7bNAME\x7d\x7d' data-tooltip='tt-0'>a</span><s")) := by
    decide +kernel
  obtain ⟨-, expanded, between, settled, expands, -, html, mentions, leak⟩ :=
    (engine.render_leaves_notation_iff rfl scope text rfl).1 ⟨_, failed⟩
  exact ⟨⟨_, failed⟩, expanded, between, html, expands, mentions, leak⟩

end Engine
end CharacterSheet
