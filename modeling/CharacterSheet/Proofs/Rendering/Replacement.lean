import CharacterSheet.Proofs.Rendering.Mentions
import Mathlib.Data.List.Nodup
import Mathlib.Data.List.Perm.Subperm

/-!
# Which texts have their tokens replaced

A text reaches the parts that it has, and those of the markup that it mentions
(`Placeholders.Reaches`). Its tokens can be replaced if every token that it reaches is
closed and known, and none reaches itself (`Placeholders.Replaceable`). What the text
then becomes is said by a relation that knows no depth (`Placeholders.Replaced`).

The replacement counts levels instead, one more than there are entries. When it runs out
of levels, it has followed a chain of known tokens that is longer than the list of
entries, so the chain comes back to one of them (`Placeholders.Chain.returns`). A text
whose tokens were replaced, on the other hand, reaches no token that reaches itself. So
the levels run out on cycles only, and on every cycle
(`Placeholders.substitute_decides_replaceable`).
-/

namespace CharacterSheet

namespace Placeholders

variable {placeholders : Placeholders} {text filled : Text} {part : TokenPart} {id : String}

/-- A text with every token replaced by its markup, in which every token is replaced. -/
inductive Replaced (placeholders : Placeholders) : (text filled : Text) → Prop
  | plain
      {text : Text}
      (clear : Text.cut? TokenPart.opener text = none) :
      Replaced placeholders text text
  | token
      {text before behind id rest html shown filled : Text}
      (opens : Text.cut? TokenPart.opener text = some (before, behind))
      (closes : Text.cut? TokenPart.closer behind = some (id, rest))
      (known : placeholders.get? (String.ofList id) = some html)
      (inside : Replaced placeholders html shown)
      (further : Replaced placeholders rest filled) :
      Replaced placeholders text (before ++ shown ++ filled)

/-- A text reaches its own parts and those of the markup that it mentions. -/
def Reaches (placeholders : Placeholders) (text : Text) (part : TokenPart) : Prop :=
  part ∈ TokenPart.ofText text ∨
    ∃ html, placeholders.Mentions text html ∧ part ∈ TokenPart.ofText html

/-- A token that the text reaches is reached by its own markup. -/
def Cyclic (placeholders : Placeholders) (text : Text) : Prop :=
  ∃ id html, placeholders.Reaches text (.token id) ∧
    placeholders.get? id = some html ∧ placeholders.Reaches html (.token id)

/-- All tokens that the text reaches can be replaced. -/
structure Replaceable (placeholders : Placeholders) (text : Text) : Prop where
  closed : ¬ placeholders.Reaches text .unclosed
  known : ∀ id, placeholders.Reaches text (.token id) → ∃ html, placeholders.get? id = some html
  acyclic : ¬ placeholders.Cyclic text

/-- What the markup of a token reaches is reached where the token stands. -/
theorem Reaches.through
    {html : Text}
    (stands : TokenPart.token id ∈ TokenPart.ofText text)
    (known : placeholders.get? id = some html)
    (inner : placeholders.Reaches html part) :
    placeholders.Reaches text part := by
  rcases inner with inHtml | ⟨other, mentions, inOther⟩
  · exact Or.inr ⟨html, .direct stands known, inHtml⟩
  · exact Or.inr ⟨other, .through stands known mentions, inOther⟩

/-- A text reaches its own parts and what the markup of its tokens reaches. -/
theorem reaches_iff :
    placeholders.Reaches text part ↔
      part ∈ TokenPart.ofText text ∨
        ∃ id html, TokenPart.token id ∈ TokenPart.ofText text ∧
          placeholders.get? id = some html ∧ placeholders.Reaches html part := by
  constructor
  · rintro (own | ⟨html, ⟨stands, known⟩ | ⟨stands, known, inner⟩, inHtml⟩)
    · exact Or.inl own
    · exact Or.inr ⟨_, html, stands, known, Or.inl inHtml⟩
    · exact Or.inr ⟨_, _, stands, known, Or.inr ⟨html, inner, inHtml⟩⟩
  · rintro (own | ⟨id, html, stands, known, inner⟩)
    · exact Or.inl own
    · exact inner.through stands known

/-- A text reaches its first token, what the markup of that token reaches, and what the
rest reaches. -/
theorem reaches_token_iff
    {before behind id rest html : Text}
    (opens : Text.cut? TokenPart.opener text = some (before, behind))
    (closes : Text.cut? TokenPart.closer behind = some (id, rest))
    (known : placeholders.get? (String.ofList id) = some html) :
    placeholders.Reaches text part ↔
      part = .plain before ∨ part = .token (String.ofList id) ∨
        placeholders.Reaches html part ∨ placeholders.Reaches rest part := by
  have parts : TokenPart.ofText text =
      .plain before :: .token (String.ofList id) :: TokenPart.ofText rest := by
    rw [TokenPart.ofText_eq, opens]
    dsimp only
    rw [closes]
  have stands {other : String} :
      TokenPart.token other ∈ TokenPart.ofText text ↔
        other = String.ofList id ∨ TokenPart.token other ∈ TokenPart.ofText rest := by
    simp [parts]
  constructor
  · intro reaches
    rcases reaches_iff.1 reaches with own | ⟨other, markup, inText, knownToo, inner⟩
    · rw [parts, List.mem_cons, List.mem_cons] at own
      rcases own with isBefore | isToken | inRest
      · exact Or.inl isBefore
      · exact Or.inr (Or.inl isToken)
      · exact Or.inr (Or.inr (Or.inr (Or.inl inRest)))
    · rcases stands.1 inText with rfl | inRest
      · cases known.symm.trans knownToo
        exact Or.inr (Or.inr (Or.inl inner))
      · exact Or.inr (Or.inr (Or.inr (inner.through inRest knownToo)))
  · rintro (rfl | rfl | inner | inRest)
    · exact Or.inl (by simp [parts])
    · exact Or.inl (by simp [parts])
    · exact inner.through (stands.2 (Or.inl rfl)) known
    · rcases reaches_iff.1 inRest with own | ⟨other, markup, stood, knownToo, inner⟩
      · exact Or.inl (by simp [parts, own])
      · exact inner.through (stands.2 (Or.inr stood)) knownToo

namespace Replaced

/-- A text becomes one text only. -/
theorem unique
    {other : Text}
    (replaced : placeholders.Replaced text filled)
    (also : placeholders.Replaced text other) :
    filled = other := by
  induction replaced generalizing other with
  | plain clear =>
      cases also with
      | plain => rfl
      | token opens => cases clear.symm.trans opens
  | token opens closes known inside further insideHypothesis furtherHypothesis =>
      cases also with
      | plain clear => cases clear.symm.trans opens
      | token opensToo closesToo knownToo insideToo furtherToo =>
          cases opens.symm.trans opensToo
          cases closes.symm.trans closesToo
          cases known.symm.trans knownToo
          rw [insideHypothesis insideToo, furtherHypothesis furtherToo]

/-- Only what can be replaced is replaced. -/
theorem replaceable (replaced : placeholders.Replaced text filled) :
    placeholders.Replaceable text := by
  induction replaced with
  | @plain text clear =>
      have none (part : TokenPart) (reaches : placeholders.Reaches text part) :
          part = .plain text := by
        have parts : TokenPart.ofText text = [.plain text] :=
          TokenPart.ofText_of_clear (Text.cut?_eq_none_iff.1 clear)
        rw [reaches_iff, parts] at reaches
        simpa using reaches
      constructor
      · intro reaches
        cases none _ reaches
      · intro id reaches
        cases none _ reaches
      · rintro ⟨id, html, reaches, -⟩
        cases none _ reaches
  | @token text before behind first rest html _ _ opens closes known _ _ inner further =>
      constructor
      · rw [reaches_token_iff opens closes known]
        simp [inner.closed, further.closed]
      · intro id reaches
        rcases (reaches_token_iff opens closes known).1 reaches with
          ⟨⟨⟩⟩ | ⟨⟨⟩⟩ | inHtml | inRest
        · exact ⟨html, known⟩
        · exact inner.known id inHtml
        · exact further.known id inRest
      · rintro ⟨id, other, reaches, knownToo, returns⟩
        rcases (reaches_token_iff opens closes known).1 reaches with
          ⟨⟨⟩⟩ | ⟨⟨⟩⟩ | inHtml | inRest
        · -- markup that reached its own token would be cyclic itself
          cases known.symm.trans knownToo
          exact inner.acyclic ⟨_, html, returns, known, returns⟩
        · exact inner.acyclic ⟨id, other, inHtml, knownToo, returns⟩
        · exact further.acyclic ⟨id, other, inRest, knownToo, returns⟩

end Replaced

/-- Filling the parts of a text replaces its tokens if it does so in the markup. -/
theorem replaced_of_mapM
    {levels : Nat}
    {parts : List Text}
    (inMarkup : ∀ html shown, placeholders.substituteWithin levels html = .ok shown →
      placeholders.Replaced html shown)
    (done : (TokenPart.ofText text).mapM (placeholders.filling levels) = .ok parts) :
    placeholders.Replaced text parts.flatten := by
  revert parts
  refine TokenPart.ofText_induction
    (motive := fun text pieces => ∀ {parts}, pieces.mapM (placeholders.filling levels) = .ok parts →
      placeholders.Replaced text parts.flatten) ?_ ?_ ?_ text
  · intro text opens parts done
    obtain ⟨_, _, ⟨⟩, ⟨⟩, rfl⟩ := mapM_cons_eq_ok_iff.1 done
    simpa using Replaced.plain opens
  · intro text before behind _ _ parts done
    obtain ⟨_, _, -, unclosed, -⟩ := mapM_cons_eq_ok_iff.1 done
    obtain ⟨_, _, ⟨⟩, -⟩ := mapM_cons_eq_ok_iff.1 unclosed
  · intro text before behind id rest opens closes inRest parts done
    obtain ⟨_, _, ⟨⟩, token, rfl⟩ := mapM_cons_eq_ok_iff.1 done
    obtain ⟨shown, further, inside, others, rfl⟩ := mapM_cons_eq_ok_iff.1 token
    cases known : placeholders.get? (String.ofList id) with
    | none => simp [filling, known] at inside
    | some html =>
        simp only [filling, known] at inside
        have replaced := Replaced.token opens closes known (inMarkup html shown inside)
          (inRest others)
        simpa using replaced

theorem replaced_of_substituteWithin
    {levels : Nat}
    (substituted : placeholders.substituteWithin levels text = .ok filled) :
    placeholders.Replaced text filled := by
  induction levels generalizing text filled with
  | zero => cases substituted
  | succ levels inductionHypothesis =>
      rw [substituteWithin_succ] at substituted
      obtain ⟨parts, done, rfl⟩ := map_eq_ok_iff.1 substituted
      exact replaced_of_mapM (fun _ _ => inductionHypothesis) done

/-- Known tokens of which the first stands in the text, and every other one in the markup
of the one before it. -/
inductive Chain (placeholders : Placeholders) : Text → List String → Prop
  | nil (text : Text) : Chain placeholders text []
  | cons
      {text html : Text}
      {id : String}
      {ids : List String}
      (stands : TokenPart.token id ∈ TokenPart.ofText text)
      (known : placeholders.get? id = some html)
      (rest : Chain placeholders html ids) :
      Chain placeholders text (id :: ids)

namespace Chain

variable {ids : List String}

theorem reaches
    (chain : placeholders.Chain text ids)
    (onChain : id ∈ ids) :
    placeholders.Reaches text (.token id) := by
  induction chain with
  | nil => cases onChain
  | cons stands known _ inductionHypothesis =>
      rcases List.mem_cons.1 onChain with rfl | later
      · exact Or.inl stands
      · exact (inductionHypothesis later).through stands known

/-- Every token on a chain has an entry. -/
theorem subset_keys (chain : placeholders.Chain text ids) :
    ids ⊆ placeholders.entries.map Prod.fst := by
  induction chain with
  | nil => exact List.nil_subset _
  | @cons _ html id _ _ known _ inductionHypothesis =>
      obtain ⟨before, after, same, -⟩ := List.lookup_eq_some_iff.1 known
      have entry : (id, html) ∈ placeholders.entries := by simp [same]
      exact List.cons_subset.2 ⟨List.mem_map_of_mem entry, inductionHypothesis⟩

theorem cyclic_of_not_nodup
    (chain : placeholders.Chain text ids)
    (repeated : ¬ ids.Nodup) :
    placeholders.Cyclic text := by
  induction chain with
  | nil => exact absurd List.nodup_nil repeated
  | @cons _ html id ids stands known rest inductionHypothesis =>
      by_cases again : id ∈ ids
      · exact ⟨id, html, Or.inl stands, known, rest.reaches again⟩
      · have later : ¬ ids.Nodup := fun distinct => repeated (List.nodup_cons.2 ⟨again, distinct⟩)
        obtain ⟨other, markup, reached, knownToo, returns⟩ := inductionHypothesis later
        exact ⟨other, markup, reached.through stands known, knownToo, returns⟩

/-- A chain that is longer than the list of entries comes back to one of its tokens. -/
theorem returns
    (chain : placeholders.Chain text ids)
    (long : placeholders.entries.length < ids.length) :
    placeholders.Cyclic text := by
  refine chain.cyclic_of_not_nodup fun distinct => ?_
  have bounded := (List.subperm_of_subset distinct chain.subset_keys).length_le
  rw [List.length_map] at bounded
  omega

end Chain

/-- Why tokens cannot be replaced within a number of levels. -/
inductive Obstacle (placeholders : Placeholders) (levels : Nat) (text : Text) :
    AssemblyError → Prop
  | unclosed
      (reaches : placeholders.Reaches text .unclosed) :
      Obstacle placeholders levels text .openPlaceholder
  | unknown
      {id : String}
      (reaches : placeholders.Reaches text (.token id))
      (missing : placeholders.get? id = none) :
      Obstacle placeholders levels text (.unknownPlaceholder id)
  | deep
      {ids : List String}
      (chain : placeholders.Chain text ids)
      (length_eq : ids.length = levels) :
      Obstacle placeholders levels text .cyclicPlaceholders

/-- What stands in the way in markup stands in the way where its token is. -/
theorem Obstacle.through
    {levels : Nat}
    {html : Text}
    {fault : AssemblyError}
    (stands : TokenPart.token id ∈ TokenPart.ofText text)
    (known : placeholders.get? id = some html)
    (obstacle : placeholders.Obstacle levels html fault) :
    placeholders.Obstacle (levels + 1) text fault := by
  cases obstacle with
  | unclosed reaches => exact .unclosed (reaches.through stands known)
  | unknown reaches missing => exact .unknown (reaches.through stands known) missing
  | deep chain length_eq => exact .deep (chain.cons stands known) (congrArg (· + 1) length_eq)

theorem obstacle_of_substituteWithin
    {levels : Nat}
    {fault : AssemblyError}
    (failed : placeholders.substituteWithin levels text = .error fault) :
    placeholders.Obstacle levels text fault := by
  induction levels generalizing text fault with
  | zero =>
      cases failed
      exact .deep (.nil text) rfl
  | succ levels inductionHypothesis =>
      rw [substituteWithin_succ] at failed
      cases done : (TokenPart.ofText text).mapM (placeholders.filling levels) with
      | ok parts =>
          rw [done] at failed
          cases failed
      | error other =>
          rw [done] at failed
          cases failed
          obtain ⟨part, stands, fails⟩ := exists_of_mapM_eq_error done
          cases part with
          | plain => cases fails
          | unclosed =>
              cases fails
              exact .unclosed (Or.inl stands)
          | token id =>
              simp only [filling] at fails
              cases known : placeholders.get? id with
              | none =>
                  rw [known] at fails
                  cases fails
                  exact .unknown (Or.inl stands) known
              | some html =>
                  rw [known] at fails
                  exact (inductionHypothesis fails).through stands known

/-- Of the three faults of a replacement each has its reason. -/
theorem reason_of_substitute
    {fault : AssemblyError}
    (failed : placeholders.substitute text = .error fault) :
    (fault = .openPlaceholder ∧ placeholders.Reaches text .unclosed) ∨
      (∃ id, fault = .unknownPlaceholder id ∧
        placeholders.Reaches text (.token id) ∧ placeholders.get? id = none) ∨
      (fault = .cyclicPlaceholders ∧ placeholders.Cyclic text) := by
  cases obstacle_of_substituteWithin failed with
  | unclosed reaches => exact Or.inl ⟨rfl, reaches⟩
  | unknown reaches missing => exact Or.inr (Or.inl ⟨_, rfl, reaches, missing⟩)
  | deep chain length_eq =>
      exact Or.inr (Or.inr ⟨rfl, chain.returns (length_eq ▸ Nat.lt_succ_self _)⟩)

/-- What can be replaced is replaced. -/
theorem Replaceable.exists_ok (replaceable : placeholders.Replaceable text) :
    ∃ filled, placeholders.substitute text = .ok filled := by
  cases done : placeholders.substitute text with
  | ok filled => exact ⟨filled, rfl⟩
  | error fault =>
      rcases reason_of_substitute done with
        ⟨-, reaches⟩ | ⟨id, -, reaches, missing⟩ | ⟨-, cyclic⟩
      · exact absurd reaches replaceable.closed
      · obtain ⟨html, known⟩ := replaceable.known id reaches
        cases missing.symm.trans known
      · exact absurd cyclic replaceable.acyclic

/-- The replacement gives exactly the text in which every token is replaced. -/
theorem substitute_eq_ok_iff :
    placeholders.substitute text = .ok filled ↔ placeholders.Replaced text filled := by
  constructor
  · exact replaced_of_substituteWithin
  · intro replaced
    obtain ⟨other, done⟩ := replaced.replaceable.exists_ok
    rw [done, replaced.unique (replaced_of_substituteWithin done)]

/-- Where all that the text reaches is closed and known, the levels run out on every
cycle. -/
theorem Cyclic.substitute_eq
    (cyclic : placeholders.Cyclic text)
    (closed : ¬ placeholders.Reaches text .unclosed)
    (known : ∀ id, placeholders.Reaches text (.token id) →
      ∃ html, placeholders.get? id = some html) :
    placeholders.substitute text = .error .cyclicPlaceholders := by
  cases done : placeholders.substitute text with
  | ok filled => exact absurd cyclic (substitute_eq_ok_iff.1 done).replaceable.acyclic
  | error fault =>
      rcases reason_of_substitute done with
        ⟨-, reaches⟩ | ⟨id, -, reaches, missing⟩ | ⟨rfl, -⟩
      · exact absurd reaches closed
      · obtain ⟨html, found⟩ := known id reaches
        cases missing.symm.trans found
      · rfl

/-- The tokens of a text are replaced exactly if every token that it reaches is closed
and known and none reaches itself. What it becomes is then the one text in which every
token gave way to its markup with every token replaced. The levels run out only where a
token that is reached reaches itself, and always there unless an open or unknown token
is reached. -/
theorem substitute_decides_replaceable (placeholders : Placeholders) (text : Text) :
    ((∃ filled, placeholders.substitute text = .ok filled) ↔ placeholders.Replaceable text) ∧
      (∀ filled, placeholders.substitute text = .ok filled ↔
        placeholders.Replaced text filled ∧
          ∀ other, placeholders.Replaced text other → other = filled) ∧
      (placeholders.substitute text = .error .cyclicPlaceholders → placeholders.Cyclic text) ∧
      (placeholders.Cyclic text →
        placeholders.Reaches text .unclosed ∨
          (∃ id, placeholders.Reaches text (.token id) ∧ placeholders.get? id = none) ∨
          placeholders.substitute text = .error .cyclicPlaceholders) := by
  refine ⟨⟨?_, Replaceable.exists_ok⟩, ?_, ?_, ?_⟩
  · rintro ⟨filled, done⟩
    exact (substitute_eq_ok_iff.1 done).replaceable
  · intro filled
    rw [substitute_eq_ok_iff]
    exact ⟨fun replaced => ⟨replaced, fun _ also => also.unique replaced⟩, And.left⟩
  · intro failed
    rcases reason_of_substitute failed with ⟨⟨⟩, -⟩ | ⟨id, ⟨⟩, -⟩ | ⟨-, cyclic⟩
    exact cyclic
  · intro cyclic
    by_cases closed : placeholders.Reaches text .unclosed
    · exact Or.inl closed
    · by_cases missing : ∃ id, placeholders.Reaches text (.token id) ∧ placeholders.get? id = none
      · exact Or.inr (Or.inl missing)
      · refine Or.inr (Or.inr (cyclic.substitute_eq closed fun id reaches => ?_))
        refine Option.ne_none_iff_exists'.1 fun unknown => missing ⟨id, reaches, unknown⟩

-- a chain through all entries needs every level
example :
    ({ entries := [("a", "<@@TT:b@@>".toList), ("b", "b".toList)] } : Placeholders).substitute
      "@@TT:a@@ @@TT:b@@".toList = .ok "<b> b".toList := rfl

end Placeholders
end CharacterSheet
