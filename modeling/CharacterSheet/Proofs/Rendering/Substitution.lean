import CharacterSheet.Proofs.Rendering.Tooltips
import CharacterSheet.Proofs.Success
import CharacterSheet.Proofs.Text.Search

/-!
# Tooltips in place

Putting tooltips in place of their tokens could make new tokens where a text and
a tooltip meet. It does not when what is kept aside is framed, because no token
has a bracket of a tag in its opener. So a document has no tokens left
(`Placeholders.clear_of_substituteWithin`), and in a text without tokens there is
nothing to put in place (`Placeholders.substitute_of_clear`). The parts of a text are
read off its first token, and laws about them follow the reader from token to token
(`TokenPart.ofText_induction`).
-/

namespace CharacterSheet

namespace TokenPart

theorem opener_ne_nil : opener ≠ [] := List.cons_ne_nil _ _

/-- Fuel beyond the length of a text changes nothing. -/
theorem read_eq_ofText
    {fuel : Nat}
    {text : Text}
    (enough : text.length < fuel) :
    read fuel text = ofText text := by
  have agree : ∀ (fuel other : Nat) (text : Text), text.length < fuel → text.length < other →
      read fuel text = read other text := by
    intro fuel
    induction fuel with
    | zero => exact fun _ _ enough => absurd enough (Nat.not_lt_zero _)
    | succ fuel inductionHypothesis =>
        intro other text enough alsoEnough
        cases other with
        | zero => exact absurd alsoEnough (Nat.not_lt_zero _)
        | succ other =>
            unfold read
            cases cut : Text.cut? opener text with
            | none => rfl
            | some parts =>
                obtain ⟨before, rest⟩ := parts
                dsimp only
                cases closing : Text.cut? closer rest with
                | none => rfl
                | some parts =>
                    obtain ⟨id, rest⟩ := parts
                    have lengths := congrArg List.length (Text.cut?_eq_some cut)
                    have restLengths := congrArg List.length (Text.cut?_eq_some closing)
                    simp only [List.length_append] at lengths restLengths
                    have proper : 0 < opener.length := by decide
                    simp only [inductionHypothesis other rest (by omega) (by omega)]
  exact agree _ _ text enough (Nat.lt_succ_self _)

/-- The parts of a text, read off its first token. -/
theorem ofText_eq (text : Text) :
    ofText text =
      match Text.cut? opener text with
      | none => [.plain text]
      | some (before, behind) =>
        match Text.cut? closer behind with
        | none => [.plain before, .unclosed]
        | some (id, rest) => .plain before :: .token (String.ofList id) :: ofText rest := by
  rw [ofText, read]
  cases opens : Text.cut? opener text with
  | none => rfl
  | some parts =>
      obtain ⟨before, behind⟩ := parts
      dsimp only
      cases closes : Text.cut? closer behind with
      | none => rfl
      | some parts =>
          obtain ⟨id, rest⟩ := parts
          have lengths := congrArg List.length (Text.cut?_eq_some opens)
          have restLengths := congrArg List.length (Text.cut?_eq_some closes)
          have proper : 0 < opener.length := by decide
          simp only [List.length_append] at lengths restLengths
          dsimp only
          rw [read_eq_ofText (by omega)]

/-- What is cut at an opener and then at a closer has a token. -/
theorem eq_of_cuts
    {text before behind id rest : Text}
    (opens : Text.cut? opener text = some (before, behind))
    (closes : Text.cut? closer behind = some (id, rest)) :
    text = before ++ tokenText (String.ofList id) ++ rest := by
  rw [Text.cut?_eq_some opens, Text.cut?_eq_some closes, tokenText, String.toList_ofList]
  simp only [List.append_assoc]

/-- What stands before a cut at an opener has no opener. -/
theorem not_infix_of_opens
    {text before behind : Text}
    (opens : Text.cut? opener text = some (before, behind)) :
    ¬ opener <:+: before := fun occurs =>
  Text.not_infix_of_cut? opener_ne_nil opens (occurs.trans (List.prefix_append before _).isInfix)

/-- What holds of a text without tokens, of one in which a token stays open, and of one with
a first token if it holds of the rest, holds of every text and its parts. -/
theorem ofText_induction
    {motive : Text → List TokenPart → Prop}
    (plain : ∀ text, Text.cut? opener text = none → motive text [.plain text])
    (unclosed : ∀ text before behind,
      Text.cut? opener text = some (before, behind) → Text.cut? closer behind = none →
        motive text [.plain before, .unclosed])
    (token : ∀ text before behind id rest,
      Text.cut? opener text = some (before, behind) →
      Text.cut? closer behind = some (id, rest) →
      motive rest (ofText rest) →
        motive text (.plain before :: .token (String.ofList id) :: ofText rest))
    (text : Text) :
    motive text (ofText text) := by
  induction size : text.length using Nat.strongRecOn generalizing text with
  | ind size inductionHypothesis =>
      subst size
      rw [ofText_eq]
      cases opens : Text.cut? opener text with
      | none => exact plain text opens
      | some parts =>
          obtain ⟨before, behind⟩ := parts
          dsimp only
          cases closes : Text.cut? closer behind with
          | none => exact unclosed text before behind opens closes
          | some parts =>
              obtain ⟨id, rest⟩ := parts
              have shorter : rest.length < text.length := by
                have positive := List.length_pos_iff.2 opener_ne_nil
                rw [eq_of_cuts opens closes, tokenText]
                simp only [List.length_append]
                omega
              exact token text before behind id rest opens closes
                (inductionHypothesis _ shorter rest rfl)

end TokenPart

namespace Placeholders

/-- What stands in place of a part of a text. -/
def filling (placeholders : Placeholders) (levels : Nat) :
    TokenPart → Except AssemblyError Text
  | .plain text => .ok text
  | .unclosed => .error .openPlaceholder
  | .token id =>
      match placeholders.get? id with
      | none => .error (.unknownPlaceholder id)
      | some html => placeholders.substituteWithin levels html

theorem substituteWithin_succ
    (placeholders : Placeholders)
    (levels : Nat)
    (text : Text) :
    placeholders.substituteWithin (levels + 1) text =
      List.flatten <$> (TokenPart.ofText text).mapM (placeholders.filling levels) := by
  rw [substituteWithin, map_eq_pure_bind]
  rfl

/-- A text with its tokens filled: plain text stays, and every token gives way to
its markup, in which tokens are filled in turn. -/
inductive Filled (placeholders : Placeholders) (levels : Nat) : Text → Text → Prop
  | plain
      {text : Text}
      (clear : ¬ TokenPart.opener <:+: text) :
      Filled placeholders levels text text
  | token
      {before rest filled html shown : Text}
      {id : String}
      (clear : ¬ TokenPart.opener <:+: before)
      (known : placeholders.get? id = some html)
      (inside : placeholders.substituteWithin levels html = .ok shown)
      (further : Filled placeholders levels rest filled) :
      Filled placeholders levels
        (before ++ TokenPart.tokenText id ++ rest) (before ++ shown ++ filled)

/-- Filling the parts of a text in order fills the text. -/
theorem filled_of_parts
    {placeholders : Placeholders}
    {levels : Nat}
    {text : Text}
    {parts : List Text}
    (filled : (TokenPart.ofText text).mapM (placeholders.filling levels) = .ok parts) :
    Filled placeholders levels text parts.flatten := by
  revert parts
  refine TokenPart.ofText_induction
    (motive := fun text pieces => ∀ {parts}, pieces.mapM (placeholders.filling levels) = .ok parts →
      Filled placeholders levels text parts.flatten) ?_ ?_ ?_ text
  · intro text clear parts filled
    obtain ⟨_, _, ⟨⟩, ⟨⟩, rfl⟩ := mapM_cons_eq_ok_iff.1 filled
    simpa using Filled.plain (Text.cut?_eq_none_iff.1 clear)
  · intro text before behind _ _ parts filled
    obtain ⟨_, _, -, unclosed, -⟩ := mapM_cons_eq_ok_iff.1 filled
    obtain ⟨_, _, ⟨⟩, -⟩ := mapM_cons_eq_ok_iff.1 unclosed
  · intro text before behind id rest opens closes inRest parts filled
    obtain ⟨_, _, ⟨⟩, token, rfl⟩ := mapM_cons_eq_ok_iff.1 filled
    obtain ⟨shown, further, inside, others, rfl⟩ := mapM_cons_eq_ok_iff.1 token
    obtain ⟨html, known⟩ : ∃ html, placeholders.get? (String.ofList id) = some html := by
      cases known : placeholders.get? (String.ofList id) with
      | none => simp [filling, known] at inside
      | some html => exact ⟨html, rfl⟩
    simp only [filling, known] at inside
    rw [TokenPart.eq_of_cuts opens closes]
    have joined := Filled.token (TokenPart.not_infix_of_opens opens) known inside (inRest others)
    simpa [List.append_assoc] using joined

/-- Putting tooltips in place fills the text. -/
theorem filled_of_substituteWithin
    {placeholders : Placeholders}
    {levels : Nat}
    {text filled : Text}
    (substituted : placeholders.substituteWithin (levels + 1) text = .ok filled) :
    Filled placeholders levels text filled := by
  rw [substituteWithin_succ] at substituted
  obtain ⟨parts, filled, rfl⟩ := map_eq_ok_iff.1 substituted
  exact filled_of_parts filled

namespace Filled

variable {placeholders : Placeholders} {levels : Nat} {text filled : Text}

/-- A tag that opens a text still opens it when its tokens are filled. -/
theorem opened
    (run : Filled placeholders levels text filled)
    (opened : text.head? = some '<') :
    filled.head? = some '<' := by
  cases run with
  | plain => exact opened
  | @token before rest _ _ _ id =>
      cases before with
      | nil => simp [TokenPart.tokenText, TokenPart.opener] at opened
      | cons c before => exact opened

/-- A tag that closes a text still closes it when its tokens are filled. -/
theorem closed
    (run : Filled placeholders levels text filled)
    (closed : text.getLast? = some '>') :
    filled.getLast? = some '>' := by
  induction run with
  | plain => exact closed
  | @token before rest filled _ shown id _ _ _ _ inductionHypothesis =>
      have ends : rest.getLast? = some '>' := by
        cases last : rest.getLast? with
        | none =>
            rw [List.getLast?_eq_none_iff.1 last] at closed
            simp [TokenPart.tokenText, TokenPart.closer] at closed
        | some c =>
            rw [List.getLast?_append, last, Option.some_or] at closed
            exact closed
      rw [List.getLast?_append, inductionHypothesis ends, Option.some_or]

end Filled

/-- What is filled with framed markup has no token left, and it stays framed. -/
theorem clear_of_substituteWithin
    {placeholders : Placeholders}
    {levels : Nat}
    {text filled : Text}
    (framed : placeholders.Holds Framed)
    (substituted : placeholders.substituteWithin levels text = .ok filled) :
    ¬ TokenPart.opener <:+: filled ∧ (Framed text → Framed filled) := by
  induction levels generalizing text filled with
  | zero => cases substituted
  | succ levels inductionHypothesis =>
      have run := filled_of_substituteWithin substituted
      refine ⟨?_, fun frame => ⟨run.opened frame.opened, run.closed frame.closed⟩⟩
      clear substituted
      induction run with
      | plain clear => exact clear
      | @token before _ filled _ _ _ clear known inside _ restClear =>
          obtain ⟨insideClear, stays⟩ := inductionHypothesis inside
          obtain ⟨middle, rfl⟩ := (stays (framed.get? known)).exists_inside
          -- the brackets of the tooltip keep apart what stands before, inside and behind
          have noOpening : '<' ∉ TokenPart.opener := by decide
          have noClosing : '>' ∉ TokenPart.opener := by decide
          have bracketed : before ++ '<' :: (middle ++ ['>']) ++ filled =
              before ++ '<' :: (middle ++ '>' :: filled) := by simp
          rw [bracketed, Text.infix_append_cons_iff noOpening,
            Text.infix_append_cons_iff noClosing]
          rintro (inBefore | inMiddle | inRest)
          · exact clear inBefore
          · refine insideClear ?_
            rw [← List.nil_append ('<' :: _), Text.infix_append_cons_iff noOpening,
              Text.infix_append_cons_iff noClosing]
            exact Or.inr (Or.inl inMiddle)
          · exact restClear inRest

/-- A text without tokens stays as it is. -/
theorem substitute_of_clear
    (placeholders : Placeholders)
    {text : Text}
    (clear : ¬ TokenPart.opener <:+: text) :
    placeholders.substitute text = .ok text := by
  unfold substitute
  rw [substituteWithin_succ]
  unfold TokenPart.ofText TokenPart.read
  rw [Text.cut?_eq_none_iff.2 clear]
  simp [filling]

end Placeholders
end CharacterSheet
