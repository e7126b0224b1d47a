import CharacterSheet.Proofs.Rendering.Registration
import CharacterSheet.Proofs.Rendering.Substitution

/-!
# What a text mentions

A text mentions the markup that its tokens stand for, and what that markup mentions in
turn (`Placeholders.Mentions`). Two equations say which tokens a text has, from left to
right, without the reader: none if no opener of a token stands in it, and otherwise the
first one and those of the rest. So what is put in place of the tokens can be followed
along the text, and in a filled text notation stands exactly where it stands in the text
or in markup that it mentions (`Placeholders.spanOpener_infix_filled_iff`).
-/

namespace CharacterSheet

namespace TokenPart

/-- A text in which no token opens is one part. -/
theorem ofText_of_clear
    {text : Text}
    (clear : ¬ opener <:+: text) :
    ofText text = [.plain text] := by
  unfold ofText read
  rw [Text.cut?_eq_none_iff.2 clear]

/-- The first token of a text is followed by those of the rest. -/
theorem ofText_token
    {before : Text}
    {id : String}
    (clear : ¬ opener <:+: before)
    (isWord : Identifier.IsWord id.toList)
    (rest : Text) :
    ofText (before ++ tokenText id ++ rest) = .plain before :: .token id :: ofText rest := by
  have openerProper : opener ≠ [] := List.cons_ne_nil _ _
  have closerProper : closer ≠ [] := List.cons_ne_nil _ _
  -- the opener ends in a colon, so it cannot begin in the text before
  have first : ¬ opener <:+: before ++ opener.dropLast := by
    intro occurs
    rcases List.infix_append_iff_ne_nil.1 occurs with
      inBefore | inOpener | ⟨start, tail, -, proper, whole, -, within⟩
    · exact clear inBefore
    · exact Text.not_infix_dropLast openerProper inOpener
    · have colon : ':' ∈ tail := by
        have last : (start ++ tail).getLast? = some ':' := by rw [← whole]; rfl
        rw [List.getLast?_append, List.getLast?_eq_some_getLast proper, Option.some_or] at last
        exact Option.some.inj last ▸ List.getLast_mem proper
      exact absurd (within.subset colon) (by decide)
  have cut : Text.cut? opener (before ++ tokenText id ++ rest) =
      some (before, id.toList ++ closer ++ rest) := by
    refine (Text.cut?_eq_some_iff openerProper).2 ⟨?_, first⟩
    simp only [tokenText, List.append_assoc]
  have closing : Text.cut? closer (id.toList ++ closer ++ rest) = some (id.toList, rest) := by
    refine (Text.cut?_eq_some_iff closerProper).2 ⟨rfl, ?_⟩
    intro occurs
    -- two signs in a row would need one in the identifier
    have counted := occurs.sublist.count_le '@'
    have absent : id.toList.count '@' = 0 :=
      List.count_eq_zero.2 fun member => absurd (isWord '@' member) (by decide)
    rw [List.count_append, absent] at counted
    exact absurd counted (by decide)
  have shorter : rest.length < (before ++ tokenText id ++ rest).length := by
    have proper : 0 < opener.length := by decide
    simp only [tokenText, List.length_append]
    omega
  rw [ofText, read]
  simp only [cut, closing]
  rw [String.ofList_toList, read_eq_ofText shorter]

/-- The tokens that are read off a text stand in it. -/
theorem tokenText_infix_of_mem
    {text : Text}
    {id : String}
    (stands : .token id ∈ ofText text) :
    tokenText id <:+: text := by
  revert stands
  refine ofText_induction (motive := fun text parts => .token id ∈ parts → tokenText id <:+: text)
    ?_ ?_ ?_ text
  · intro text opens stands
    cases List.mem_singleton.1 stands
  · intro text before behind _ _ stands
    simp at stands
  · intro text before behind first rest opens closes inRest stands
    obtain rfl := eq_of_cuts opens closes
    simp only [List.mem_cons, reduceCtorEq, token.injEq, false_or] at stands
    rcases stands with rfl | later
    · exact ⟨before, rest, rfl⟩
    · exact (inRest later).trans (List.suffix_append _ rest).isInfix

@[simp] theorem head?_tokenText (id : String) : (tokenText id).head? = some '@' := rfl

@[simp] theorem getLast?_tokenText (id : String) : (tokenText id).getLast? = some '@' := by
  rw [tokenText, List.getLast?_append]
  rfl

theorem opener_infix_tokenText (id : String) : opener <:+: tokenText id := by
  rw [tokenText, List.append_assoc]
  exact (List.prefix_append opener _).isInfix

theorem tokenText_ne_nil (id : String) : tokenText id ≠ [] := List.cons_ne_nil _ _

/-- Neither braces nor brackets stand in a token. -/
theorem not_mem_tokenText
    {c : Char}
    {id : String}
    (isWord : Identifier.IsWord id.toList)
    (unnamed : c.isAlphanum = false)
    (apart : c ∉ opener ++ closer) :
    c ∉ tokenText id := by
  rw [List.mem_append, not_or] at apart
  simp only [tokenText, List.mem_append, not_or]
  refine ⟨⟨apart.1, fun member => ?_⟩, apart.2⟩
  rw [isWord c member] at unnamed
  cases unnamed

end TokenPart

namespace Placeholders

/-- Markup that a text mentions: what one of its tokens stands for, or what that markup
mentions in turn. -/
inductive Mentions (placeholders : Placeholders) : Text → Text → Prop
  | direct
      {text html : Text}
      {id : String}
      (stands : TokenPart.token id ∈ TokenPart.ofText text)
      (known : placeholders.get? id = some html) :
      Mentions placeholders text html
  | through
      {text outer html : Text}
      {id : String}
      (stands : TokenPart.token id ∈ TokenPart.ofText text)
      (known : placeholders.get? id = some outer)
      (inner : Mentions placeholders outer html) :
      Mentions placeholders text html

variable {placeholders : Placeholders}

/-- Whatever a text mentions is markup that is kept aside. -/
theorem Mentions.of_filed
    {kept : Text → Prop}
    {text html : Text}
    (filed : placeholders.Filed kept)
    (mentions : placeholders.Mentions text html) :
    kept html := by
  induction mentions with
  | direct stands known => exact (filed.get? known).2
  | through stands known inner inductionHypothesis => exact inductionHypothesis

theorem not_mentions_of_clear
    {text html : Text}
    (clear : ¬ TokenPart.opener <:+: text) :
    ¬ placeholders.Mentions text html := by
  have none : ∀ id, TokenPart.token id ∉ TokenPart.ofText text := by
    intro id stands
    rw [TokenPart.ofText_of_clear clear] at stands
    cases List.mem_singleton.1 stands
  rintro (⟨stands, -⟩ | ⟨stands, -, -⟩)
  · exact none _ stands
  · exact none _ stands

/-- A text mentions what its first token stands for, what that mentions, and what the
rest of the text mentions. -/
theorem mentions_token_iff
    {before rest first html : Text}
    {id : String}
    (clear : ¬ TokenPart.opener <:+: before)
    (isWord : Identifier.IsWord id.toList)
    (known : placeholders.get? id = some first) :
    placeholders.Mentions (before ++ TokenPart.tokenText id ++ rest) html ↔
      html = first ∨ placeholders.Mentions first html ∨ placeholders.Mentions rest html := by
  have stands {other : String} :
      TokenPart.token other ∈ TokenPart.ofText (before ++ TokenPart.tokenText id ++ rest) ↔
        other = id ∨ TokenPart.token other ∈ TokenPart.ofText rest := by
    rw [TokenPart.ofText_token clear isWord rest]
    simp
  constructor
  · rintro (⟨here, found⟩ | ⟨here, found, inner⟩)
    · rcases stands.1 here with rfl | later
      · exact Or.inl (Option.some.inj (found.symm.trans known))
      · exact Or.inr (Or.inr (.direct later found))
    · rcases stands.1 here with rfl | later
      · obtain rfl := Option.some.inj (found.symm.trans known)
        exact Or.inr (Or.inl inner)
      · exact Or.inr (Or.inr (.through later found inner))
  · rintro (rfl | inFirst | (⟨later, found⟩ | ⟨later, found, inner⟩))
    · exact .direct (stands.2 (Or.inl rfl)) known
    · exact .through (stands.2 (Or.inl rfl)) known inFirst
    · exact .direct (stands.2 (Or.inr later)) found
    · exact .through (stands.2 (Or.inr later)) found inner

theorem Filed.framed
    (filed : placeholders.Filed Framed) :
    placeholders.Holds Framed :=
  fun entry member => (filed entry member).2

/-- What is filled with framed markup holds notation exactly where the text does or
markup that it mentions. -/
theorem spanOpener_infix_filled_iff
    {levels : Nat}
    {text filled : Text}
    (filed : placeholders.Filed Framed)
    (substituted : placeholders.substituteWithin levels text = .ok filled) :
    spanOpener <:+: filled ↔
      spanOpener <:+: text ∨
        ∃ html, placeholders.Mentions text html ∧ spanOpener <:+: html := by
  induction levels generalizing text filled with
  | zero => cases substituted
  | succ levels inductionHypothesis =>
      have run := filled_of_substituteWithin substituted
      clear substituted
      induction run with
      | plain clear => simp [not_mentions_of_clear clear]
      | @token before rest filled html shown id clear known inside further restHypothesis =>
          obtain ⟨isWord, framed⟩ := filed.get? known
          have shownFramed := (clear_of_substituteWithin filed.framed inside).2 framed
          have unopened : ¬ spanOpener <:+: TokenPart.tokenText id :=
            (Passed.of_not_mem (TokenPart.not_mem_tokenText isWord rfl (by decide))).clear
          have shownProper : shown ≠ [] := by
            rintro rfl
            cases shownFramed.opened
          rw [spanOpener_infix_append_between_iff shownProper
              (by simp [shownFramed.opened]) (by simp [shownFramed.closed]),
            spanOpener_infix_append_between_iff (TokenPart.tokenText_ne_nil id)
              (by simp [TokenPart.head?_tokenText]) (by simp [TokenPart.getLast?_tokenText])]
          simp only [mentions_token_iff clear isWord known, inductionHypothesis inside,
            restHypothesis, unopened, false_or, or_and_right,
            exists_or, exists_eq_left]
          exact iff_of_eq (by ac_rfl)

end Placeholders

end CharacterSheet
