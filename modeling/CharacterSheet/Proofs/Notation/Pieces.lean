import CharacterSheet.Proofs.Notation.Content

/-!
# Pieces of a content

A content is cut at each separator as long as cuts are left, and a text has no more separators
than characters. So more cuts than characters change nothing, and what stands in front of a
separator can be read on its own: a bare text there is the first argument as it is
(`Arguments.ofContent_bare`).
-/

namespace CharacterSheet

namespace Text

/-- A plain text without quotes and without blanks around it. -/
structure IsBare (text : Text) : Prop where
  plain : text.IsPlain
  unquoted : ∀ c ∈ text, c ≠ '\'' ∧ c ≠ '"'
  unpadded : trim text = text

end Text

namespace Arguments

variable {separator : Char}

section

variable {cuts : Nat} {place : Place} {c d : Char} {text rest : Text}

/-- Inside quotes every character belongs to the piece. -/
theorem pieces_cons_of_quoted
    {quote : Char}
    (opened : place.quote? = some quote) :
    pieces separator cuts place (c :: text) =
      consFirst c
        (pieces separator cuts (if c = quote then { place with quote? := none } else place)
          text) := by
  rw [pieces.eq_def]
  dsimp only
  rw [opened]

variable (unquoted : place.quote? = none)

include unquoted

/-- An opener belongs to the piece. -/
theorem pieces_cons_of_opens (opens : c = '{' ∧ (d :: rest).head? = some '{') :
    pieces separator cuts place (c :: d :: rest) =
      consFirst c (consFirst d (pieces separator cuts place.enter rest)) := by
  rw [pieces.eq_def]
  dsimp only
  rw [unquoted]
  dsimp only
  rw [if_pos opens]

/-- A closer belongs to the piece. -/
theorem pieces_cons_of_closes
    (notOpens : ¬ (c = '{' ∧ (d :: rest).head? = some '{'))
    (closes : 0 < place.depth ∧ c = '}' ∧ (d :: rest).head? = some '}') :
    pieces separator cuts place (c :: d :: rest) =
      consFirst c (consFirst d (pieces separator cuts place.leave rest)) := by
  rw [pieces.eq_def]
  dsimp only
  rw [unquoted]
  dsimp only
  rw [if_neg notOpens, if_pos closes]

variable
  (notOpens : ¬ (c = '{' ∧ text.head? = some '{'))
  (notCloses : ¬ (0 < place.depth ∧ c = '}' ∧ text.head? = some '}'))

include notOpens notCloses

/-- A separator outside of spans ends the piece. -/
theorem pieces_cons_of_ends (ends : place.depth = 0 ∧ c = separator ∧ 0 < cuts) :
    pieces separator cuts place (c :: text) = [] :: pieces separator (cuts - 1) .start text := by
  rw [pieces.eq_def]
  dsimp only
  rw [unquoted]
  dsimp only
  rw [if_neg notOpens, if_neg notCloses, if_pos ends]

/-- Any other character belongs to the piece. -/
theorem pieces_cons_of_goesOn (goesOn : ¬ (place.depth = 0 ∧ c = separator ∧ 0 < cuts)) :
    pieces separator cuts place (c :: text) =
      consFirst c (pieces separator cuts (place.pass c) text) := by
  rw [pieces.eq_def]
  dsimp only
  rw [unquoted]
  dsimp only
  rw [if_neg notOpens, if_neg notCloses, if_neg goesOn]

end

/-- With a cut for each character there are enough of them, and more change nothing. -/
theorem pieces_congr
    {cuts other : Nat}
    {content : Text}
    (enough : content.length ≤ cuts)
    (otherEnough : content.length ≤ other)
    (place : Place) :
    pieces separator cuts place content = pieces separator other place content := by
  fun_induction pieces separator cuts place content generalizing other with
  | case1 => rfl
  | case2 cuts place c text quote opened inductionHypothesis =>
      rw [pieces_cons_of_quoted opened,
        inductionHypothesis (Nat.le_of_succ_le enough) (Nat.le_of_succ_le otherEnough)]
  | case3 cuts place c unquoted opens => cases opens.2
  | case4 cuts place c unquoted d rest opens inductionHypothesis =>
      rw [pieces_cons_of_opens unquoted opens, inductionHypothesis
        (Nat.le_of_add_right_le (k := 2) enough) (Nat.le_of_add_right_le (k := 2) otherEnough)]
  | case5 cuts place c unquoted notOpens closes => cases closes.2.2
  | case6 cuts place c unquoted d rest notOpens closes inductionHypothesis =>
      rw [pieces_cons_of_closes unquoted notOpens closes, inductionHypothesis
        (Nat.le_of_add_right_le (k := 2) enough) (Nat.le_of_add_right_le (k := 2) otherEnough)]
  | case7 cuts place c text unquoted notOpens notCloses ends inductionHypothesis =>
      have left : 0 < other := Nat.lt_of_lt_of_le (Nat.succ_pos _) otherEnough
      rw [pieces_cons_of_ends unquoted notOpens notCloses ⟨ends.1, ends.2.1, left⟩,
        inductionHypothesis (Nat.le_sub_one_of_lt enough) (Nat.le_sub_one_of_lt otherEnough)]
  | case8 cuts place c text unquoted notOpens notCloses goesOn inductionHypothesis =>
      have left : 0 < cuts := Nat.lt_of_lt_of_le (Nat.succ_pos _) enough
      rw [pieces_cons_of_goesOn unquoted notOpens notCloses fun ends =>
          goesOn ⟨ends.1, ends.2.1, left⟩,
        inductionHypothesis (Nat.le_of_succ_le enough) (Nat.le_of_succ_le otherEnough)]

/-- Plain text without quotes is passed over up to the comma behind it. -/
theorem pieces_append_comma
    {text : Text}
    (plain : text.IsPlain)
    (unquoted : ∀ c ∈ text, c ≠ '\'' ∧ c ≠ '"')
    {place : Place}
    (outside : place.depth = 0)
    (unopened : place.quote? = none)
    (cuts : Nat)
    (rest : Text) :
    pieces ',' (cuts + 1) place (text ++ ',' :: rest) =
      text :: pieces ',' cuts .start rest := by
  have notCloses {c : Char} {text : Text} :
      ¬ (0 < place.depth ∧ c = '}' ∧ text.head? = some '}') :=
    fun closes => absurd closes.1 (by omega)
  induction text generalizing place with
  | nil =>
      have notOpens : ¬ (',' = '{' ∧ rest.head? = some '{') :=
        fun opens => absurd opens.1 (by decide)
      exact pieces_cons_of_ends unopened notOpens notCloses ⟨outside, rfl, Nat.succ_pos cuts⟩
  | cons c text inductionHypothesis =>
      obtain ⟨⟨notOpener, -, notComma⟩, plainRest⟩ := List.forall_mem_cons.1 plain
      obtain ⟨⟨notSingle, notDouble⟩, unquotedRest⟩ := List.forall_mem_cons.1 unquoted
      have passed : (place.pass c).quote? = none := by
        simp [Place.pass, notSingle, notDouble]
      rw [List.cons_append, pieces_cons_of_goesOn unopened (fun opens => notOpener opens.1)
          notCloses (fun ends => notComma ends.2.1),
        inductionHypothesis plainRest unquotedRest
          (show (place.pass c).depth = 0 from outside) passed
          fun closes => absurd closes.1 (by
            change ¬ 0 < place.depth
            omega)]
      rfl

/-- A bare text in front of the first comma is the first argument. -/
theorem ofContent_bare
    {text : Text}
    (bare : text.IsBare)
    (rest : Text) :
    ofContent (text ++ ',' :: rest) = text :: ofContent rest := by
  have cuts : (text ++ ',' :: rest).length = text.length + rest.length + 1 := by
    simp only [List.length_append, List.length_cons]
    omega
  change (pieces ',' _ .start _).map Text.trim = _ :: (pieces ',' rest.length .start rest).map _
  rw [cuts, pieces_append_comma bare.plain bare.unquoted rfl rfl, List.map_cons, bare.unpadded,
    pieces_congr (Nat.le_add_left _ _) (Nat.le_refl rest.length)]

end Arguments

end CharacterSheet
