import CharacterSheet.Pattern.Linear
import CharacterSheet.Proofs.Rendering.Mentions
import CharacterSheet.Proofs.Rendering.Steps
import CharacterSheet.Proofs.Text.Case

/-!
# Tokens in changed letter case

A token is part of the text that it stands in, so a handler that changes letter case changes
tokens too. In lower case no opener of a token is left, and what were tokens stay in the
document as they are. In upper case the openers are left, but an identifier with a letter
becomes one that nothing is kept under: only identifiers that are numerals survive
(`Engine.dispatch_changes_tokens`).
-/

namespace CharacterSheet

namespace Identifier

/-- Whether an identifier has no letters. -/
def IsNumeral (id : String) : Prop := ∀ c ∈ id.toList, c.isDigit = true

theorem isAscii_ofWord (word : UInt64) : Text.IsAscii (ofWord word).toList :=
  forall_mem_ofWord (by decide) word

/-- The letters of an identifier are small. -/
theorem isNumeral_of_isLower
    {word : UInt64}
    (unsmall : ∀ c ∈ (ofWord word).toList, c.isLower = false) :
    IsNumeral (ofWord word) := by
  have digits : ∀ c ∈ (ofWord word).toList, c.isDigit = true ∨ c.isLower = true :=
    forall_mem_ofWord (by decide) word
  intro c member
  rcases digits c member with isDigit | isLower
  · exact isDigit
  · rw [unsmall c member] at isLower
    cases isLower

/-- An identifier in upper case. -/
def raised (id : String) : String := String.ofList (Text.upper id.toList)

theorem toList_raised (id : String) : (raised id).toList = Text.upper id.toList :=
  String.toList_ofList

/-- A numeral is the same in upper case. -/
theorem IsNumeral.raised_eq
    {word : UInt64}
    (numeral : IsNumeral (ofWord word)) :
    raised (ofWord word) = ofWord word := by
  have stays : ∀ c ∈ (ofWord word).toList, c.toUpper = c := by
    intro c member
    have isDigit := numeral c member
    unfold Char.isDigit at isDigit
    unfold Char.toUpper
    grind
  rw [raised, Text.upper_of_ascii (isAscii_ofWord word), List.map_congr_left stays, List.map_id',
    String.ofList_toList]

theorem isWord_raised_ofWord (word : UInt64) : IsWord (raised (ofWord word)).toList := by
  rw [toList_raised, Text.upper_of_ascii (isAscii_ofWord word)]
  exact List.forall_mem_map.2 (forall_mem_ofWord (by decide) word)

/-- No letter becomes a digit in upper case. -/
theorem isNumeral_of_raised
    {word : UInt64}
    (numeral : IsNumeral (raised (ofWord word))) :
    IsNumeral (ofWord word) := by
  have digits : ∀ c ∈ (ofWord word).toList, c.toUpper.isDigit = true → c.isDigit = true :=
    forall_mem_ofWord (by decide) word
  unfold IsNumeral at numeral
  rw [toList_raised, Text.upper_of_ascii (isAscii_ofWord word)] at numeral
  exact fun c member => digits c member (numeral _ (List.mem_map_of_mem member))

end Identifier

namespace TokenPart

open Identifier

theorem isAscii_tokenText (word : UInt64) : Text.IsAscii (tokenText (ofWord word)) := by
  have opens : Text.IsAscii opener := by simp [Text.IsAscii, opener]
  have closes : Text.IsAscii closer := by simp [Text.IsAscii, closer]
  refine List.forall_mem_append.2 ⟨List.forall_mem_append.2 ⟨opens, ?_⟩, closes⟩
  exact isAscii_ofWord word

theorem upper_tokenText (id : String) :
    Text.upper (tokenText id) = tokenText (raised id) := by
  rw [tokenText, tokenText, Text.upper_append, Text.upper_append, toList_raised]
  rfl

/-- In lower case no token opens. -/
theorem not_opener_infix_lower (text : Text) : ¬ opener <:+: Text.lower text := fun occurs =>
  absurd (Text.isUpper_lower text 'T' (occurs.subset (by decide))) (by decide)

/-- No tokens are left in lower case. -/
theorem inOrder_lower_iff
    {ids : List String}
    {text : Text} :
    Text.InOrder (ids.map tokenText) (Text.lower text) ↔ ids = [] := by
  constructor
  · intro stand
    cases ids with
    | nil => rfl
    | cons id ids =>
        have stands : tokenText id <:+: Text.lower text := stand.isInfix List.mem_cons_self
        exact absurd ((opener_infix_tokenText id).trans stands) (not_opener_infix_lower text)
  · rintro rfl
    trivial

/-- A token that is left in upper case has an identifier without letters. -/
theorem isNumeral_of_infix_upper
    {word : UInt64}
    {text : Text}
    (stands : tokenText (ofWord word) <:+: Text.upper text) :
    IsNumeral (ofWord word) := by
  refine isNumeral_of_isLower fun c member => Text.isLower_upper text c (stands.subset ?_)
  exact List.mem_append_left closer (List.mem_append_right opener member)

/-- Exactly the tokens whose identifiers have no letters are left in upper case. -/
theorem inOrder_upper_iff
    {ids : List String}
    {text : Text}
    (drawn : ∀ id ∈ ids, ∃ word, id = ofWord word)
    (stand : Text.InOrder (ids.map tokenText) text) :
    Text.InOrder (ids.map tokenText) (Text.upper text) ↔ ∀ id ∈ ids, IsNumeral id := by
  constructor
  · intro left id member
    obtain ⟨word, rfl⟩ := drawn id member
    exact isNumeral_of_infix_upper (left.isInfix (List.mem_map_of_mem member))
  · intro numerals
    have raises := stand.upper
    have same : ∀ id ∈ ids, Text.upper (tokenText id) = tokenText id := by
      intro id member
      obtain ⟨word, rfl⟩ := drawn id member
      rw [upper_tokenText, (numerals _ member).raised_eq]
    rw [List.map_map] at raises
    exact List.map_congr_left same ▸ raises

/-- A part in upper case. -/
def raised : TokenPart → TokenPart
  | .plain text => .plain (Text.upper text)
  | .token id => .token (Identifier.raised id)
  | .unclosed => .unclosed

/-- If no token opens in the parts between the tokens, in upper case either, then the parts of
a text in upper case are its parts in upper case. -/
theorem ofText_upper
    {text : Text}
    (closed : .unclosed ∉ ofText text)
    (drawn : ∀ id, .token id ∈ ofText text → ∃ word, id = ofWord word)
    (clear : ∀ between, .plain between ∈ ofText text → ¬ opener <:+: Text.upper between) :
    ofText (Text.upper text) = (ofText text).map raised := by
  revert closed drawn clear
  refine ofText_induction
    (motive := fun text parts => .unclosed ∉ parts →
      (∀ id, .token id ∈ parts → ∃ word, id = ofWord word) →
      (∀ between, .plain between ∈ parts → ¬ opener <:+: Text.upper between) →
      ofText (Text.upper text) = parts.map raised) ?_ ?_ ?_ text
  · intro text _ _ _ clear
    exact ofText_of_clear (clear text (List.mem_singleton_self _))
  · intro text before behind _ _ closed
    exact absurd (by simp) closed
  · intro text before behind id rest opens closes inRest closed drawn clear
    obtain ⟨word, isWord⟩ := drawn (String.ofList id) (by simp)
    have further : ofText (Text.upper rest) = (ofText rest).map raised :=
      inRest (fun stands => closed (by simp [stands]))
        (fun id stands => drawn id (by simp [stands]))
        (fun between stands => clear between (by simp [stands]))
    rw [eq_of_cuts opens closes, isWord, Text.upper_append, Text.upper_append, upper_tokenText,
      ofText_token (clear before (by simp)) (isWord_raised_ofWord word), further]
    rfl

end TokenPart

namespace Placeholders

open Identifier

variable {placeholders : Placeholders} {text filled : Text}

/-- If every token of a text is replaced, then all of them are closed and known. -/
theorem known_of_substitute
    (substituted : placeholders.substitute text = .ok filled) :
    .unclosed ∉ TokenPart.ofText text ∧
      ∀ id, .token id ∈ TokenPart.ofText text → ∃ html, placeholders.get? id = some html := by
  unfold substitute at substituted
  rw [substituteWithin_succ] at substituted
  obtain ⟨parts, done, -⟩ := map_eq_ok_iff.1 substituted
  have each := exists_mapM_eq_ok_iff.1 ⟨parts, done⟩
  constructor
  · intro stands
    obtain ⟨_, ⟨⟩⟩ := each _ stands
  · intro id stands
    obtain ⟨shown, fills⟩ := each _ stands
    cases known : placeholders.get? id with
    | none => simp [filling, known] at fills
    | some html => exact ⟨html, rfl⟩

/-- The tokens of a text that can be replaced have drawn identifiers. -/
theorem Filed.drawn
    {kept : Text → Prop}
    (filed : placeholders.Filed kept)
    (substituted : placeholders.substitute text = .ok filled)
    {id : String}
    (stands : .token id ∈ TokenPart.ofText text) :
    ∃ word, id = ofWord word := by
  obtain ⟨-, known⟩ := known_of_substitute substituted
  obtain ⟨html, found⟩ := known id stands
  exact (filed.of_get? found).1

/-- Where the tokens of a text in upper case are replaced, they have no letters. -/
theorem Filed.isNumeral_of_upper
    {kept : Text → Prop}
    (filed : placeholders.Filed kept)
    (substituted : placeholders.substitute (Text.upper text) = .ok filled)
    {id : String}
    (stands : .token id ∈ TokenPart.ofText (Text.upper text)) :
    IsNumeral id := by
  obtain ⟨word, rfl⟩ := filed.drawn substituted stands
  exact TokenPart.isNumeral_of_infix_upper (TokenPart.tokenText_infix_of_mem stands)

/-- A text whose tokens could be replaced, one of them with a letter, has a token that cannot
be replaced in upper case. -/
theorem Filed.substitute_upper_ne_ok
    {kept : Text → Prop}
    (filed : placeholders.Filed kept)
    (substituted : placeholders.substitute text = .ok filled)
    (clear : ∀ between, .plain between ∈ TokenPart.ofText text →
      ¬ TokenPart.opener <:+: Text.upper between)
    {id : String}
    (stands : .token id ∈ TokenPart.ofText text)
    (lettered : ¬ IsNumeral id)
    (other : Text) :
    placeholders.substitute (Text.upper text) ≠ .ok other := by
  intro replaced
  obtain ⟨closed, -⟩ := known_of_substitute substituted
  have parts := TokenPart.ofText_upper closed (fun _ => filed.drawn substituted) clear
  obtain ⟨word, rfl⟩ := filed.drawn substituted stands
  have raises : .token (raised (ofWord word)) ∈ TokenPart.ofText (Text.upper text) := by
    rw [parts]
    exact List.mem_map_of_mem stands
  exact lettered (isNumeral_of_raised (filed.isNumeral_of_upper replaced raises))

end Placeholders

namespace Engine

open Identifier

variable {engine : Engine} {answers : Answers} {scope : Scope} {content expanded : Text}
  {journal after : Journal}

/-- A handler that changes its text gives the changed expansion of a content that is not
blank. -/
theorem on_dispatchWith_rewording
    {name own : String}
    {change : Text → Text}
    (found : engine.registry.find? name = some (.rewording own change))
    (given : Arguments.count content ≠ 0)
    (expands : ((Argument.text scope content).run answers).on journal = (.ok expanded, after)) :
    (engine.dispatchWith answers scope name content).on journal =
      (.ok (change expanded), after) := by
  have accepted : (Handler.rewording own change).accepts (Arguments.count content) = true := by
    simpa [Handler.accepts, Handler.rewording, Nat.one_le_iff_ne_zero] using given
  have run : (((Handler.rewording own change).run engine.setting scope content).run answers).on
      journal = (.ok (Value.ofText (change expanded)), after) := by
    change ((((Value.ofText ∘ change) <$> Argument.text scope content).run answers).on journal) = _
    rw [Script.run_map, Action.on_map, expands]
    rfl
  unfold dispatchWith
  rw [found]
  dsimp only
  rw [if_pos accepted, Action.on_bind_of_ok run, Action.on_pure]
  exact congrArg (fun text => (Except.ok text, after)) String.toList_ofList

variable {kept : Text → Prop} {lowering raising : String} {ids : List String}

/-- What the handlers of letter case do to tokens of tooltips that stand in order in the
expansion of their content. In lower case no token is left: what were tokens stand in the
result in lower case, and nothing is put in their place at the end. In upper case exactly the
tokens are left whose identifiers have no letters; the others stand there in upper case, and
whenever tooltips can be put in place at the end, it is only those without letters. So an
expansion with a token that has a letter cannot be made a document any more once it is in
upper case, if it could before and the text between its tokens opens none in upper case. -/
theorem dispatch_changes_tokens
    (lowers : engine.registry.find? lowering = some .lower)
    (raises : engine.registry.find? raising = some .upper)
    (given : Arguments.count content ≠ 0)
    (expands : ((Argument.text scope content).run answers).on journal = (.ok expanded, after))
    (filed : after.placeholders.Filed kept)
    (registered : ∀ id ∈ ids, ∃ html, after.placeholders.get? id = some html)
    (stand : Text.InOrder (ids.map TokenPart.tokenText) expanded) :
    let tokens := ids.map TokenPart.tokenText
    let lowered := Text.lower expanded
    let raised := Text.upper expanded
    ((engine.dispatchWith answers scope lowering content).on journal = (.ok lowered, after) ∧
      (Text.InOrder tokens lowered ↔ ids = []) ∧
      Text.InOrder (tokens.map Text.lower) lowered ∧
      after.placeholders.substitute lowered = .ok lowered) ∧
    ((engine.dispatchWith answers scope raising content).on journal = (.ok raised, after) ∧
      (Text.InOrder tokens raised ↔ ∀ id ∈ ids, IsNumeral id) ∧
      Text.InOrder (tokens.map Text.upper) raised ∧
      (∀ document, after.placeholders.substitute raised = .ok document →
        ∀ id, .token id ∈ TokenPart.ofText raised → IsNumeral id) ∧
      ((∃ document, after.placeholders.substitute expanded = .ok document) →
        (∀ between, .plain between ∈ TokenPart.ofText expanded →
          ¬ TokenPart.opener <:+: Text.upper between) →
        (∃ id, .token id ∈ TokenPart.ofText expanded ∧ ¬ IsNumeral id) →
          ∀ document, after.placeholders.substitute raised ≠ .ok document)) := by
  intro tokens lowered raised
  have drawn : ∀ id ∈ ids, ∃ word, id = ofWord word := by
    intro id member
    obtain ⟨html, found⟩ := registered id member
    exact (filed.of_get? found).1
  have ascii : ∀ token ∈ tokens, Text.IsAscii token := by
    refine List.forall_mem_map.2 fun id member => ?_
    obtain ⟨word, rfl⟩ := drawn id member
    exact TokenPart.isAscii_tokenText word
  refine ⟨⟨on_dispatchWith_rewording lowers given expands, TokenPart.inOrder_lower_iff,
    stand.lower ascii, ?_⟩, on_dispatchWith_rewording raises given expands,
    TokenPart.inOrder_upper_iff drawn stand, stand.upper, ?_, ?_⟩
  · exact Placeholders.substitute_of_clear _ (TokenPart.not_opener_infix_lower expanded)
  · exact fun document substituted id stands => filed.isNumeral_of_upper substituted stands
  · rintro ⟨document, substituted⟩ clear ⟨id, stands, lettered⟩
    exact filed.substitute_upper_ne_ok substituted clear stands lettered

/-- A tooltip with the identifier `b`: in lower case its token is shown in the document, and in
upper case nothing is known under its identifier. -/
theorem dispatch_changes_tokens_of_tooltip :
    let engine : Engine :=
      { config := {}
        registry := .builtin
        rules := ⟨[]⟩
        patterns := .linear
        words := .counting 10 }
    let scope : Scope := { character := .object [] }
    let lowering : Text := "\x7b\x7bLOWER:\x7b\x7bTOOLTIP:a,b\x7d\x7d\x7d\x7d".toList
    let raising : Text := "\x7b\x7bUPPER:\x7b\x7bTOOLTIP:a,b\x7d\x7d\x7d\x7d".toList
    ((engine.render scope lowering).on {}).1 = .ok "@@tt:b@@".toList ∧
      ((engine.render scope raising).on {}).1 =
        .error (.assembly (.unknownPlaceholder "B")) := by
  decide +kernel

/-- The same tooltip could be put in place before its token was changed. -/
theorem dispatch_changes_tokens_of_letter :
    let engine : Engine :=
      { config := {}
        registry := ⟨[("LOWER", .lower), ("UPPER", .upper), ("TOOLTIP", .tooltip)]⟩
        rules := ⟨[]⟩
        patterns := .linear
        words := .counting 10 }
    let scope : Scope := { character := .object [] }
    let answers := engine.answersBy engine.expand
    let content : Text := "\x7b\x7bTOOLTIP:a,b\x7d\x7d".toList
    let token : Text := "@@TT:b@@".toList
    let html : Text := ("<span class='tooltip-anchor' data-tooltip='tt-a'>a</span>" ++
      "<span class='tooltip-content' id='tt-a' role='tooltip'>b</span>").toList
    let expansion := ((Argument.text scope content).run answers).on {}
    expansion.1 = .ok token ∧
      expansion.2.placeholders = { entries := [("b", html)], drawn := 2 } ∧
      expansion.2.placeholders.substitute token = .ok html ∧
      (engine.dispatchWith answers scope "LOWER" content).on {} =
        (.ok "@@tt:b@@".toList, expansion.2) ∧
      expansion.2.placeholders.substitute "@@tt:b@@".toList = .ok "@@tt:b@@".toList ∧
      (engine.dispatchWith answers scope "UPPER" content).on {} =
        (.ok "@@TT:B@@".toList, expansion.2) ∧
      ∀ document, expansion.2.placeholders.substitute "@@TT:B@@".toList ≠ .ok document := by
  intro engine scope answers content token html expansion
  have lowers : engine.registry.find? "LOWER" = some .lower := rfl
  have raises : engine.registry.find? "UPPER" = some .upper := rfl
  have given : Arguments.count content ≠ 0 := by decide +kernel
  obtain ⟨expanded, placeholders⟩ : expansion.1 = .ok token ∧
      expansion.2.placeholders = { entries := [("b", html)], drawn := 2 } := by
    decide +kernel
  have filed : expansion.2.placeholders.Filed fun _ => True := by
    rw [placeholders]
    exact List.forall_mem_singleton.2 ⟨⟨11, by decide⟩, trivial⟩
  have known : ∀ id ∈ ["b"], ∃ html, expansion.2.placeholders.get? id = some html := by
    rw [placeholders]
    exact List.forall_mem_singleton.2 ⟨html, rfl⟩
  have stand : Text.InOrder (["b"].map TokenPart.tokenText) token := ⟨[], [], by decide, trivial⟩
  have parts : TokenPart.ofText token = [.plain [], .token "b", .plain []] := by decide
  have substituted : expansion.2.placeholders.substitute token = .ok html := by
    rw [placeholders]
    decide +kernel
  have lower : Text.lower token = "@@tt:b@@".toList := by decide
  have upper : Text.upper token = "@@TT:B@@".toList := by decide
  have lettered : ¬ IsNumeral "b" := fun numeral =>
    absurd (numeral 'b' List.mem_cons_self) (by decide)
  have expands : expansion = (.ok token, expansion.2) := by
    rw [← expanded]
  obtain ⟨⟨lowered, -, -, shown⟩, raised, -, -, -, unknown⟩ :=
    dispatch_changes_tokens lowers raises given expands filed known stand
  rw [lower] at lowered shown
  rw [upper] at raised unknown
  refine ⟨expanded, placeholders, substituted, lowered, shown, raised, ?_⟩
  refine unknown ⟨html, substituted⟩ ?_ ⟨"b", by simp [parts], lettered⟩
  intro between stands occurs
  rw [parts] at stands
  obtain rfl : between = [] := by simpa using stands
  exact absurd (List.infix_nil.1 occurs) TokenPart.opener_ne_nil

end Engine

end CharacterSheet
