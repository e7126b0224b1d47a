import CharacterSheet.Markup.Typography
import CharacterSheet.Proofs.Markup.Marks

/-!
# Typography touches text only

Typography turns hyphens of running text into dashes and minus signs. It makes no
other characters, so nothing else arises in a document that was not there
(`Retouched.occurs_already`): no mark begins where none began, and the document is cut into
the same pieces again, with their text typeset (`pieces_normalize`). Typeset text
has no two hyphens in a row and no hyphen that starts a number, so typography
changes nothing the second time (`normalize_idempotent`). A check of the markup looks at
marks alone, so it answers alike before and after (`normalize_touches_text`).
-/

namespace CharacterSheet
namespace Markup

/-- A text and the same text with some of its hyphens as dashes or minus signs. -/
inductive Retouched : Text → Text → Prop
  | nil : Retouched [] []
  | keep
      {before after : Text}
      (c : Char)
      (rest : Retouched before after) :
      Retouched (c :: before) (c :: after)
  | toMinus
      {before after : Text}
      (rest : Retouched before after) :
      Retouched ('-' :: before) (Text.minusSign :: after)
  | toDash
      {before after : Text}
      (rest : Retouched before after) :
      Retouched ('-' :: '-' :: before) (dash :: after)

namespace Retouched

theorem refl (text : Text) : Retouched text text := by
  induction text with
  | nil => exact .nil
  | cons c text inductionHypothesis => exact .keep c inductionHypothesis

theorem append
    {left leftAfter right rightAfter : Text}
    (first : Retouched left leftAfter)
    (second : Retouched right rightAfter) :
    Retouched (left ++ right) (leftAfter ++ rightAfter) := by
  induction first with
  | nil => exact second
  | keep c _ inductionHypothesis => exact .keep c inductionHypothesis
  | toMinus _ inductionHypothesis => exact .toMinus inductionHypothesis
  | toDash _ inductionHypothesis => exact .toDash inductionHypothesis

theorem trans
    {text between after : Text}
    (first : Retouched text between)
    (second : Retouched between after) :
    Retouched text after := by
  induction second generalizing text with
  | nil => exact first
  | keep c _ inductionHypothesis =>
      cases first with
      | keep c first => exact .keep c (inductionHypothesis first)
      | toMinus first => exact .toMinus (inductionHypothesis first)
      | toDash first => exact .toDash (inductionHypothesis first)
  | toMinus _ inductionHypothesis =>
      cases first with
      | keep c first => exact .toMinus (inductionHypothesis first)
  | toDash _ inductionHypothesis =>
      cases first with
      | keep c first =>
          cases first with
          | keep c first => exact .toDash (inductionHypothesis first)

/-- A text without dashes and minus signs was already at the start. -/
theorem starts_already
    {text after mark : Text}
    (retouched : Retouched text after)
    (noMinus : Text.minusSign ∉ mark)
    (noDash : dash ∉ mark)
    (starts : mark <+: after) :
    mark <+: text := by
  induction retouched generalizing mark with
  | nil => exact starts
  | @keep before after c _ inductionHypothesis =>
      cases mark with
      | nil => exact List.nil_prefix
      | cons d mark =>
          obtain ⟨rfl, next⟩ := List.cons_prefix_cons.1 starts
          rw [List.mem_cons, not_or] at noMinus noDash
          exact List.cons_prefix_cons.2 ⟨rfl, inductionHypothesis noMinus.2 noDash.2 next⟩
  | toMinus =>
      cases mark with
      | nil => exact List.nil_prefix
      | cons d mark =>
          obtain ⟨rfl, -⟩ := List.cons_prefix_cons.1 starts
          exact absurd List.mem_cons_self noMinus
  | toDash =>
      cases mark with
      | nil => exact List.nil_prefix
      | cons d mark =>
          obtain ⟨rfl, -⟩ := List.cons_prefix_cons.1 starts
          exact absurd List.mem_cons_self noDash

/-- A text without dashes and minus signs does not arise. -/
theorem occurs_already
    {text after mark : Text}
    (retouched : Retouched text after)
    (noMinus : Text.minusSign ∉ mark)
    (noDash : dash ∉ mark)
    (occurs : mark <:+: after) :
    mark <:+: text := by
  induction retouched with
  | nil => exact occurs
  | keep c rest inductionHypothesis =>
      rcases List.infix_cons_iff.1 occurs with starts | later
      · exact ((rest.keep c).starts_already noMinus noDash starts).isInfix
      · exact (inductionHypothesis later).trans (List.suffix_cons c _).isInfix
  | toMinus rest inductionHypothesis =>
      rcases List.infix_cons_iff.1 occurs with starts | later
      · exact (rest.toMinus.starts_already noMinus noDash starts).isInfix
      · exact (inductionHypothesis later).trans (List.suffix_cons '-' _).isInfix
  | toDash rest inductionHypothesis =>
      rcases List.infix_cons_iff.1 occurs with starts | later
      · exact (rest.toDash.starts_already noMinus noDash starts).isInfix
      · exact (inductionHypothesis later).trans (List.suffix_append ['-', '-'] _).isInfix

end Retouched

theorem retouched_withDashes (text : Text) : Retouched text (withDashes text) := by
  fun_induction withDashes text with
  | case1 text inductionHypothesis => exact .toDash inductionHypothesis
  | case2 c text _ inductionHypothesis => exact .keep c inductionHypothesis
  | case3 => exact .nil

theorem retouched_withMinuses (before? : Option Char) (text : Text) :
    Retouched text (withMinuses before? text) := by
  induction text generalizing before? with
  | nil => exact .nil
  | cons c text inductionHypothesis =>
      unfold withMinuses
      dsimp only
      split
      · next here =>
          simp only [Bool.and_eq_true, beq_iff_eq] at here
          obtain ⟨⟨rfl, -⟩, -⟩ := here
          exact .toMinus (inductionHypothesis _)
      · exact .keep c (inductionHypothesis _)

theorem retouched_typeset (text : Text) : Retouched text (typeset text) :=
  (retouched_withDashes text).trans (retouched_withMinuses none _)

/-- Dashes leave no two hyphens in a row. -/
theorem no_hyphens_withDashes (text : Text) : ¬ ['-', '-'] <:+: withDashes text := by
  fun_induction withDashes text with
  | case1 text inductionHypothesis =>
      intro occurs
      rcases List.infix_cons_iff.1 occurs with starts | later
      · cases (List.cons_prefix_cons.1 starts).1
      · exact inductionHypothesis later
  | case2 c text single inductionHypothesis =>
      intro occurs
      rcases List.infix_cons_iff.1 occurs with starts | later
      · obtain ⟨rfl, next⟩ := List.cons_prefix_cons.1 starts
        -- a hyphen behind this one would have been a hyphen before
        have hyphen : ['-'] <+: text :=
          (retouched_withDashes text).starts_already (by decide) (by decide) next
        obtain ⟨rest, rfl⟩ := hyphen
        exact single rest rfl rfl
      · exact inductionHypothesis later
  | case3 => simp

/-- Without two hyphens in a row there is no dash to make. -/
theorem withDashes_eq_self
    {text : Text}
    (single : ¬ ['-', '-'] <:+: text) :
    withDashes text = text := by
  fun_induction withDashes text with
  | case1 text => exact absurd (List.prefix_append ['-', '-'] text).isInfix single
  | case2 c text _ inductionHypothesis =>
      rw [inductionHypothesis fun later => single (later.trans (List.suffix_cons c text).isInfix)]
  | case3 => rfl

/-- Minus signs are made alike after characters that alike may precede numbers. -/
theorem withMinuses_congr
    {first? second? : Option Char}
    (alike : mayPrecedeNumber first? = mayPrecedeNumber second?)
    (text : Text) :
    withMinuses first? text = withMinuses second? text := by
  cases text with
  | nil => rfl
  | cons c text =>
      unfold withMinuses
      rw [alike]

/-- Whether a number follows does not depend on the minus signs. -/
theorem startsWithDigit_withMinuses (before? : Option Char) (text : Text) :
    startsWithDigit (withMinuses before? text) = startsWithDigit text := by
  cases text with
  | nil => rfl
  | cons c text =>
      unfold withMinuses
      dsimp only
      split
      · next here =>
          simp only [Bool.and_eq_true, beq_iff_eq] at here
          obtain ⟨⟨rfl, -⟩, -⟩ := here
          rfl
      · rfl

/-- A hyphen that was left does not start a number. -/
theorem withMinuses_withMinuses (before? : Option Char) (text : Text) :
    withMinuses before? (withMinuses before? text) = withMinuses before? text := by
  induction text generalizing before? with
  | nil => rfl
  | cons c text inductionHypothesis =>
      rw [withMinuses]
      split
      · next here =>
          simp only [Bool.and_eq_true, beq_iff_eq] at here
          obtain ⟨⟨rfl, -⟩, -⟩ := here
          have alike : mayPrecedeNumber (some Text.minusSign) = mayPrecedeNumber (some '-') := by
            decide
          rw [withMinuses, withMinuses_congr alike, inductionHypothesis]
          rfl
      · next stays =>
          rw [withMinuses, startsWithDigit_withMinuses, inductionHypothesis]
          simp only [stays]
          rfl

/-- Typeset text stays as it is. -/
theorem typeset_typeset (text : Text) : typeset (typeset text) = typeset text := by
  have single : ¬ ['-', '-'] <:+: typeset text := fun occurs =>
    no_hyphens_withDashes text
      ((retouched_withMinuses none _).occurs_already (by decide) (by decide) occurs)
  have second : typeset (typeset text) = withMinuses none (withDashes (typeset text)) := rfl
  rw [second, withDashes_eq_self single]
  exact withMinuses_withMinuses none (withDashes text)

/-- No mark begins in typeset text. -/
theorem Unmarked.typeset
    {text : Text}
    (unmarked : Unmarked text) :
    Unmarked (Markup.typeset text) := by
  intro c starts occurs
  have noMinus : Text.minusSign ∉ ['<', c] := by
    rintro member
    rcases List.mem_cons.1 member with same | member
    · cases same
    · obtain rfl := List.mem_singleton.1 member
      cases starts
  have noDash : dash ∉ ['<', c] := by
    rintro member
    rcases List.mem_cons.1 member with same | member
    · cases same
    · obtain rfl := List.mem_singleton.1 member
      cases starts
  exact unmarked c starts ((retouched_typeset text).occurs_already noMinus noDash occurs)

theorem typeset_ne_nil {text : Text} (proper : text ≠ []) : typeset text ≠ [] := by
  intro empty
  have retouched := retouched_typeset text
  rw [empty] at retouched
  cases retouched
  exact proper rfl

/-- Pieces with typeset text are laid out well. -/
theorem Laid.typeset
    {pieces : List Piece}
    (laid : Laid pieces) :
    Laid (pieces.map Piece.typeset) := by
  induction laid with
  | nil => exact .nil
  | mark isMark _ inductionHypothesis => exact .mark isMark inductionHypothesis
  | @text text pieces proper unmarked apart _ inductionHypothesis =>
      have stillApart : LeadsWithMark (pieces.map Piece.typeset) := by
        cases pieces with
        | nil => trivial
        | cons piece pieces =>
            cases piece with
            | text characters => exact apart.elim
            | mark characters => trivial
      exact .text (typeset_ne_nil proper) unmarked.typeset stillApart inductionHypothesis

theorem retouched_contents (pieces : List Piece) :
    Retouched (contents pieces) (contents (pieces.map Piece.typeset)) := by
  induction pieces with
  | nil => exact .nil
  | cons piece pieces inductionHypothesis =>
      rw [List.map_cons, contents_cons, contents_cons]
      refine Retouched.append ?_ inductionHypothesis
      cases piece with
      | text characters => exact retouched_typeset characters
      | mark characters => exact .refl characters

theorem normalize_eq_contents
    {html : Text}
    {cut : List Piece}
    (found : pieces html = .ok cut) :
    normalize html = contents (cut.map Piece.typeset) := by
  unfold normalize contents
  rw [found, List.flatMap_map]

/-- Typography only makes dashes and minus signs of hyphens. -/
theorem retouched_normalize (html : Text) : Retouched html (normalize html) := by
  cases found : pieces html with
  | error cause =>
      unfold normalize
      rw [found]
      exact .refl html
  | ok cut =>
      have whole := (pieces_eq_ok_iff.1 found).1
      rw [normalize_eq_contents found]
      exact whole ▸ retouched_contents cut

/-- A typeset document is cut into the same pieces with their text typeset. -/
theorem pieces_normalize
    {html : Text}
    {cut : List Piece}
    (found : pieces html = .ok cut) :
    pieces (normalize html) = .ok (cut.map Piece.typeset) :=
  pieces_eq_ok_iff.2
    ⟨normalize_eq_contents found, (pieces_eq_ok_iff.1 found).2.typeset⟩

theorem Piece.typeset_typeset (piece : Piece) : piece.typeset.typeset = piece.typeset := by
  cases piece with
  | text characters => exact congrArg Piece.text (Markup.typeset_typeset characters)
  | mark characters => rfl

/-- Typography changes nothing the second time. -/
theorem normalize_idempotent (html : Text) : normalize (normalize html) = normalize html := by
  cases found : pieces html with
  | error cause =>
      have same : normalize html = html := by
        unfold normalize
        rw [found]
      rw [same, same]
  | ok cut =>
      rw [normalize_eq_contents (pieces_normalize found), normalize_eq_contents found,
        List.map_map]
      exact congrArg contents
        (List.map_congr_left fun piece _ => piece.typeset_typeset)

theorem Piece.mark?_typeset (piece : Piece) : piece.typeset.mark? = piece.mark? := by
  cases piece with
  | text characters => rfl
  | mark characters => rfl

/-- A document whose marks cannot be told apart is left as it is. -/
theorem normalize_of_marks_eq_error
    {html : Text}
    {cause : MarkupError}
    (failed : marks html = .error cause) :
    normalize html = html := by
  obtain found : pieces html = .error cause := map_eq_error_iff.1 failed
  unfold normalize
  rw [found]

/-- Typography keeps all marks as they are and in their order. -/
theorem marks_normalize (html : Text) : marks (normalize html) = marks html := by
  cases found : pieces html with
  | error cause =>
      have failed : marks html = .error cause := map_eq_error_iff.2 found
      rw [normalize_of_marks_eq_error failed]
  | ok cut =>
      unfold marks
      rw [pieces_normalize found, found]
      change Except.ok ((cut.map Piece.typeset).filterMap Piece.mark?) =
        Except.ok (cut.filterMap Piece.mark?)
      rw [List.filterMap_map]
      exact congrArg Except.ok
        (List.filterMap_congr fun piece _ => piece.mark?_typeset)

/-- Typography touches text only. It changes nothing the second time; the tags, comments and
declarations of a document are the same before and after, and a document in which they
cannot be told apart stays as it is; and a check answers alike, with the same fault if it
fails, under every allow-list. -/
theorem normalize_touches_text
    (html : Text)
    (allowed? : Option (List String)) :
    normalize (normalize html) = normalize html ∧
      marks (normalize html) = marks html ∧
      ((∃ found, marks html = .ok found) ∨ normalize html = html) ∧
      validate allowed? (normalize html) = validate allowed? html := by
  have delimited : (∃ found, marks html = .ok found) ∨ normalize html = html := by
    cases delimits : marks html with
    | error cause => exact .inr (normalize_of_marks_eq_error delimits)
    | ok found => exact .inl ⟨found, rfl⟩
  have checked : validate allowed? (normalize html) = validate allowed? html := by
    rw [validate_eq_marks, validate_eq_marks, marks_normalize]
  exact ⟨normalize_idempotent html, marks_normalize html, delimited, checked⟩

end Markup
end CharacterSheet
