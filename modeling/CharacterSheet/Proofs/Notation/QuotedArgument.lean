import CharacterSheet.Proofs.Notation.Quoted
import CharacterSheet.Proofs.Notation.Settled

/-!
# Quoted arguments

The reader of arguments takes the first quote of the kind that opened for the closing one, the
reader of literals the first one that no backslash consumes. They agree on a literal without quotes
of its own kind: it is one argument, whatever commas it holds. Behind the first escaped quote the
reader of arguments is outside of quotes again, and only open spans hold the rest of the literal
together (`Quoted.single_argument_iff`).
-/

namespace CharacterSheet
namespace Span

/-- A character that neither opens a span nor closes one that is open changes nothing. -/
theorem leftOpen_cons
    {depth : Nat}
    {c : Char}
    {text : Text}
    (notOpens : ¬ (c = '{' ∧ text.head? = some '{'))
    (notCloses : ¬ (0 < depth ∧ c = '}' ∧ text.head? = some '}')) :
    leftOpen depth (c :: text) = leftOpen depth text := by
  cases depth with
  | zero => exact leftOpen_zero_cons (mt spanOpener_prefix_cons_iff.1 notOpens)
  | succ depth =>
      refine leftOpen_plain _ c text ?_ ?_
      · rintro rest isBrace rfl
        exact notOpens ⟨isBrace, rfl⟩
      · rintro rest isBrace rfl
        exact notCloses ⟨Nat.succ_pos depth, isBrace, rfl⟩

end Span

namespace Arguments

/-- At every comma of a text a span is open, if `depth` are open where it begins. -/
def Enclosed (depth : Nat) (text : Text) : Prop :=
  ∀ before behind, text = before ++ ',' :: behind → 0 < Span.leftOpen depth before

section

variable {depth : Nat} {c : Char} {text : Text}

theorem Enclosed.nil (depth : Nat) : Enclosed depth [] := by
  intro before behind same
  exact absurd same.symm (by simp)

/-- A pair of braces counts for the text behind it. -/
theorem enclosed_pair_iff
    {next : Nat}
    (notComma : c ≠ ',')
    (counts : ∀ text, Span.leftOpen depth (c :: c :: text) = Span.leftOpen next text) :
    Enclosed depth (c :: c :: text) ↔ Enclosed next text := by
  constructor
  · rintro enclosed before behind rfl
    rw [← counts]
    exact enclosed (c :: c :: before) behind rfl
  · intro enclosed before behind same
    match before with
    | [] => exact absurd (List.cons.inj same).1 notComma
    | [_] => exact absurd (List.cons.inj (List.cons.inj same).2).1 notComma
    | _ :: _ :: before =>
        cases same
        rw [counts]
        exact enclosed before behind rfl

/-- Of all other characters only a comma matters. -/
theorem enclosed_cons_iff
    (notOpens : ¬ (c = '{' ∧ text.head? = some '{'))
    (notCloses : ¬ (0 < depth ∧ c = '}' ∧ text.head? = some '}')) :
    Enclosed depth (c :: text) ↔ (c = ',' → 0 < depth) ∧ Enclosed depth text := by
  have begins {before behind : Text} (same : text = before ++ ',' :: behind) {d : Char}
      (first : before.head? = some d) : text.head? = some d := by
    rw [same, List.head?_append, first]
    rfl
  have counts {before behind : Text} (same : text = before ++ ',' :: behind) :
      Span.leftOpen depth (c :: before) = Span.leftOpen depth before :=
    Span.leftOpen_cons (fun opens => notOpens ⟨opens.1, begins same opens.2⟩)
      fun closes => notCloses ⟨closes.1, closes.2.1, begins same closes.2.2⟩
  constructor
  · intro enclosed
    refine ⟨?_, fun before behind same => ?_⟩
    · rintro rfl
      exact enclosed [] text rfl
    · rw [← counts same]
      exact enclosed (c :: before) behind (congrArg (c :: ·) same)
  · rintro ⟨deep, enclosed⟩ before behind same
    cases before with
    | nil => exact deep (List.cons.inj same).1
    | cons d before =>
        obtain ⟨rfl, tail⟩ := List.cons.inj same
        rw [counts tail]
        exact enclosed before behind tail

end

/-- Outside of quotes a text is one piece exactly if a span is open at each of its commas. -/
theorem length_pieces_eq_one_iff
    {cuts : Nat}
    {place : Place}
    {text : Text}
    (unquoted : place.quote? = none)
    (begun : place.fresh = false)
    (left : 0 < cuts) :
    (pieces ',' cuts place text).length = 1 ↔ Enclosed place.depth text := by
  have proper := pieces_ne_nil ','
  -- the place has begun and stays so, so no quote opens on the way
  fun_induction pieces ',' cuts place text with
  | case1 => exact iff_of_true rfl (Enclosed.nil _)
  | case2 _ _ _ _ _ opened => cases opened.symm.trans unquoted
  | case3 _ _ _ _ opens => cases opens.2
  | case4 _ _ _ _ _ _ opens inductionHypothesis =>
      obtain ⟨rfl, first⟩ := opens
      cases first
      rw [length_consFirst (consFirst_ne_nil _ _), length_consFirst (proper _ _ _),
        enclosed_pair_iff (by decide) fun _ => rfl]
      exact inductionHypothesis unquoted rfl left
  | case5 _ _ _ _ _ closes => cases closes.2.2
  | case6 _ _ _ _ _ _ _ closes inductionHypothesis =>
      obtain ⟨-, rfl, first⟩ := closes
      cases first
      rw [length_consFirst (consFirst_ne_nil _ _), length_consFirst (proper _ _ _),
        enclosed_pair_iff (by decide) fun _ => rfl]
      exact inductionHypothesis unquoted begun left
  | case7 _ place _ text _ _ _ ends _ =>
      obtain ⟨outside, rfl, -⟩ := ends
      refine iff_of_false (fun single => ?_) fun enclosed => ?_
      · exact proper _ _ _ (List.length_eq_zero_iff.1 (Nat.succ.inj single))
      · exact absurd outside (Nat.pos_iff_ne_zero.1 (enclosed [] text rfl))
  | case8 _ place c text _ notOpens notCloses goesOn inductionHypothesis =>
      have deep : c = ',' → 0 < place.depth := fun isComma =>
        Nat.pos_of_ne_zero fun outside => goesOn ⟨outside, isComma, left⟩
      rw [Place.pass_of_begun unquoted begun] at inductionHypothesis ⊢
      rw [length_consFirst (proper _ _ _), enclosed_cons_iff notOpens notCloses]
      exact (inductionHypothesis unquoted begun left).trans (and_iff_right deep).symm

/-- Inside quotes everything up to the closing quote is passed. -/
theorem pieces_quoted
    {separator quote : Char}
    {place : Place}
    {quoted : Text}
    (opened : place.quote? = some quote)
    (absent : quote ∉ quoted)
    (cuts : Nat)
    (rest : Text) :
    pieces separator cuts place (quoted ++ quote :: rest) =
      prepend (quoted ++ [quote])
        (pieces separator cuts { place with quote? := none } rest) := by
  induction quoted with
  | nil =>
      rw [List.nil_append, pieces_cons_of_quoted opened, if_pos rfl]
      rfl
  | cons c quoted inductionHypothesis =>
      rw [List.mem_cons, not_or] at absent
      rw [List.cons_append, pieces_cons_of_quoted opened, if_neg (Ne.symm absent.1),
        inductionHypothesis absent.2]
      rfl

/-- A quote opens where an argument starts. -/
theorem Place.start_pass_quote
    {quote : Char}
    (opens : Quoted.isQuote quote = true) :
    Place.start.pass quote = { depth := 0, quote? := some quote, fresh := false } := by
  obtain ⟨-, shown, -⟩ := Quoted.of_isQuote opens
  rw [Quoted.isQuote] at opens
  simp [Place.pass, Place.start, opens, shown]

/-- At the start of an argument everything up to the second quote is passed. -/
theorem pieces_start_quoted
    {quote : Char}
    {quoted : Text}
    (opens : Quoted.isQuote quote = true)
    (absent : quote ∉ quoted)
    (cuts : Nat)
    (rest : Text) :
    pieces ',' cuts .start (quote :: (quoted ++ quote :: rest)) =
      prepend (quote :: (quoted ++ [quote]))
        (pieces ',' cuts { depth := 0, quote? := none, fresh := false } rest) := by
  have plain : quote ≠ '{' ∧ quote ≠ ',' := by
    rcases Quoted.isQuote_iff.1 opens with rfl | rfl <;> decide
  have outside : Place.start.depth = 0 := rfl
  rw [pieces_cons_of_goesOn rfl (fun opens => plain.1 opens.1)
      (fun closes => absurd closes.1 (by omega)) (fun ends => plain.2 ends.2.1),
    Place.start_pass_quote opens, pieces_quoted rfl absent]
  rfl

/-- A content is one argument if it is one piece. -/
theorem ofContent_eq_singleton_iff {content : Text} :
    ofContent content = [Text.trim content] ↔ (ofContent content).length = 1 := by
  refine ⟨fun same => by rw [same]; rfl, fun single => ?_⟩
  rw [ofContent, split, List.length_map] at single
  rw [ofContent, split, pieces_eq_singleton single]
  rfl

end Arguments

namespace Quoted

/-- The first quote of its kind is the last character of a literal exactly if no backslash consumes
it. -/
theorem FirstFree.rest_eq_nil_iff
    {quote : Char}
    {quoted rest inner : Text}
    (found : FirstFree quote (quoted ++ quote :: rest) inner []) :
    rest = [] ↔ consumesNext quoted = false := by
  cases rest using List.reverseRecOn with
  | nil =>
      have same : quoted = inner := (List.append_inj' found.whole rfl).1
      exact iff_of_true rfl (same ▸ found.free)
  | append_singleton rest c =>
      have whole : (quoted ++ quote :: rest) ++ [c] = inner ++ [quote] := by
        rw [← found.whole, List.append_assoc, List.cons_append]
      have consumed := found.first quoted rest (List.append_inj' whole rfl).1.symm
      exact iff_of_false (by simp) (by simp [consumed])

/-- A literal is one argument exactly if behind the first quote of its kind a span is open at every
comma. In front of that quote commas do not matter, and it ends the literal unless a backslash
consumes it: so a literal without escaped quotes of its kind is one argument, and one with such a
quote is cut at each comma behind it that stands outside of spans. -/
theorem single_argument_iff
    {argument read : Text}
    (isLiteral : literal? argument = some read) :
    ∃ quote quoted rest,
      isQuote quote = true ∧
      Text.trim argument = quote :: (quoted ++ quote :: rest) ∧
      quote ∉ quoted ∧
      (rest = [] ↔ consumesNext quoted = false) ∧
      (Arguments.ofContent argument = [Text.trim argument] ↔
        ∀ before behind, rest = before ++ ',' :: behind → Span.Unclosed before) := by
  obtain ⟨quote, text, whole, opens, read⟩ := literal?_eq_some_iff.1 isLiteral
  obtain ⟨other, -, -⟩ := of_isQuote opens
  obtain ⟨inner, found⟩ := (readInner?_iff_firstFree other text []).1 ⟨_, read⟩
  have member : quote ∈ text := by
    rw [found.whole]
    exact List.mem_append_right _ (List.mem_singleton_self quote)
  obtain ⟨quoted, rest, rfl, absent⟩ := List.eq_append_cons_of_mem member
  refine ⟨quote, quoted, rest, opens, whole, absent, found.rest_eq_nil_iff, ?_⟩
  have passed := Arguments.pieces_start_quoted opens absent (Text.trim argument).length rest
  rw [← whole] at passed
  rw [Arguments.ofContent_eq_singleton_iff, Arguments.ofContent,
    ← Arguments.split_trim (by decide), Arguments.split, List.length_map, passed,
    Arguments.length_prepend (Arguments.pieces_ne_nil _ _ _ _),
    Arguments.length_pieces_eq_one_iff rfl rfl (by simp [whole])]
  simp only [Arguments.Enclosed, Span.unclosed_iff]

/-- A comma in front of an escaped quote and one in a span behind it. -/
theorem single_argument_iff_of_apostrophe :
    let argument := " '1, it\\'s \x7b\x7bMAX:1,2\x7d\x7d' ".toList
    literal? argument = some "1, it's \x7b\x7bMAX:1,2\x7d\x7d".toList ∧
      ∃ quote quoted rest,
        isQuote quote = true ∧
        Text.trim argument = quote :: (quoted ++ quote :: rest) ∧
        quote ∉ quoted ∧
        (rest = [] ↔ consumesNext quoted = false) ∧
        (Arguments.ofContent argument = [Text.trim argument] ↔
          ∀ before behind, rest = before ++ ',' :: behind → Span.Unclosed before) := by
  intro argument
  have isLiteral : literal? argument = some "1, it's \x7b\x7bMAX:1,2\x7d\x7d".toList := by
    decide +kernel
  exact ⟨isLiteral, single_argument_iff isLiteral⟩

/-- Behind an escaped quote a literal is cut at a comma. -/
theorem literal_cut_behind_escaped_quote :
    let argument := "'a\\',b'".toList
    literal? argument = some "a',b".toList ∧
      Arguments.ofContent argument = ["'a\\'".toList, "b'".toList] ∧
      Arguments.ofContent argument ≠ [Text.trim argument] := by
  decide +kernel

end Quoted
end CharacterSheet
