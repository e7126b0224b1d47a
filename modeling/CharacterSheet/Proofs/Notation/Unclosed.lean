import CharacterSheet.Proofs.Notation.Span

/-!
# Openers without a closer

A text is unclosed if looking for one span after the other ends at an opener
without a closer. Reading braces in pairs from left to right, that is to say that
a span is still open at its end (`Span.unclosed_iff`). Said so, it can be seen
that no text in front closes it (`Span.Unclosed.append_left`): single braces at
the seam may pair up in another way, but a brace that opens can only add to what
is open, and one that closes has nothing to close where nothing was open.
-/

namespace CharacterSheet
namespace Span

/-- Looking for one span after the other ends at an opener without a closer. -/
inductive Unclosed : Text → Prop
  | here
      {text : Text}
      {fault : Fault}
      (failed : find text = .error fault) :
      Unclosed text
  | behind
      {text : Text}
      {span : Span}
      (found : find text = .ok (some span))
      (rest : Unclosed span.after) :
      Unclosed text

/-- How many spans are open at the end of a text, if `depth` are open where it
begins. -/
def leftOpen (depth : Nat) : Text → Nat
  | [] => depth
  | '{' :: '{' :: text => leftOpen (depth + 1) text
  | '}' :: '}' :: text => leftOpen (depth - 1) text
  | _ :: text => leftOpen depth text

theorem leftOpen_opener (depth : Nat) (text : Text) :
    leftOpen depth ('{' :: '{' :: text) = leftOpen (depth + 1) text := rfl

theorem leftOpen_closer (depth : Nat) (text : Text) :
    leftOpen depth ('}' :: '}' :: text) = leftOpen (depth - 1) text := rfl

/-- A character that neither opens nor closes changes nothing. -/
theorem leftOpen_plain
    (depth : Nat)
    (c : Char)
    (text : Text)
    (notOpener : ∀ rest, c = '{' → text = '{' :: rest → False)
    (notCloser : ∀ rest, c = '}' → text = '}' :: rest → False) :
    leftOpen depth (c :: text) = leftOpen depth text := by
  rw [leftOpen]
  · exact notOpener
  · exact notCloser

/-- The more spans are open before a text, the more are open behind it. -/
theorem leftOpen_mono
    {less more : Nat}
    (le : less ≤ more)
    (text : Text) :
    leftOpen less text ≤ leftOpen more text := by
  fun_induction leftOpen less text generalizing more with
  | case1 => exact le
  | case2 depth text inductionHypothesis =>
      rw [leftOpen_opener]
      exact inductionHypothesis (by omega)
  | case3 depth text inductionHypothesis =>
      rw [leftOpen_closer]
      exact inductionHypothesis (by omega)
  | case4 depth c text notOpener notCloser inductionHypothesis =>
      rw [leftOpen_plain more c text notOpener notCloser]
      exact inductionHypothesis le

/-- Where nothing is open, only an opener changes that. -/
theorem leftOpen_zero_cons
    {c : Char}
    {text : Text}
    (notOpener : ¬ spanOpener <+: c :: text) :
    leftOpen 0 (c :: text) = leftOpen 0 text := by
  induction text generalizing c with
  | nil => rw [leftOpen_plain] <;> simp
  | cons d text inductionHypothesis =>
      by_cases closer : c = '}' ∧ d = '}'
      · obtain ⟨rfl, rfl⟩ := closer
        have behind : ¬ spanOpener <+: '}' :: text := by simp [spanOpener]
        rw [leftOpen_closer, inductionHypothesis behind]
      · rw [leftOpen_plain]
        · rintro rest rfl same
          cases same
          exact notOpener ⟨text, rfl⟩
        · rintro rest rfl same
          cases same
          exact closer ⟨rfl, rfl⟩

/-- A brace in front opens at most one span more, and closes none. -/
theorem leftOpen_brace
    (depth : Nat)
    (text : Text) :
    leftOpen depth text ≤ leftOpen depth ('{' :: text) ∧
      leftOpen depth ('{' :: text) ≤ leftOpen (depth + 1) text := by
  induction text generalizing depth with
  | nil => exact ⟨Nat.le_refl depth, Nat.le_succ depth⟩
  | cons c text inductionHypothesis =>
      by_cases brace : c = '{'
      · subst brace
        rw [leftOpen]
        exact ⟨(inductionHypothesis depth).2, (inductionHypothesis (depth + 1)).1⟩
      · have plain : leftOpen depth ('{' :: c :: text) = leftOpen depth (c :: text) := by
          rw [leftOpen_plain] <;> simp [brace]
        rw [plain]
        exact ⟨Nat.le_refl _, leftOpen_mono (Nat.le_succ depth) _⟩

/-- A character in front closes nothing that a text leaves open. -/
theorem leftOpen_zero_le_cons
    (depth : Nat)
    (c : Char)
    (text : Text) :
    leftOpen 0 text ≤ leftOpen depth (c :: text) := by
  have mono := leftOpen_mono (Nat.zero_le depth) text
  by_cases brace : c = '{'
  · subst brace
    exact Nat.le_trans mono (leftOpen_brace depth text).1
  by_cases closer : c = '}' ∧ ∃ rest, text = '}' :: rest
  · obtain ⟨rfl, rest, rfl⟩ := closer
    have single : ¬ spanOpener <+: '}' :: rest := by simp [spanOpener]
    rw [leftOpen_zero_cons single, leftOpen_closer]
    exact leftOpen_mono (Nat.zero_le _) rest
  · rw [leftOpen_plain]
    · exact mono
    · exact fun _ isBrace => absurd isBrace brace
    · exact fun rest isCloser same => closer ⟨isCloser, rest, same⟩

/-- A text in front closes nothing that a text leaves open. -/
theorem leftOpen_zero_le_append
    (depth : Nat)
    (left text : Text) :
    leftOpen 0 text ≤ leftOpen depth (left ++ text) := by
  fun_induction leftOpen depth left with
  | case1 depth => exact leftOpen_mono (Nat.zero_le depth) text
  | case2 depth left inductionHypothesis => exact inductionHypothesis
  | case3 depth left inductionHypothesis => exact inductionHypothesis
  | case4 depth c left notOpener notCloser inductionHypothesis =>
      cases left with
      | nil => exact leftOpen_zero_le_cons depth c text
      | cons d left =>
          have plain : leftOpen depth (c :: d :: (left ++ text)) =
              leftOpen depth (d :: (left ++ text)) := by
            refine leftOpen_plain depth c _ ?_ ?_
            · rintro rest isOpener same
              obtain ⟨rfl, -⟩ := List.cons.inj same
              exact notOpener left isOpener rfl
            · rintro rest isCloser same
              obtain ⟨rfl, -⟩ := List.cons.inj same
              exact notCloser left isCloser rfl
          exact Nat.le_trans inductionHypothesis (Nat.le_of_eq plain.symm)

/-- The inside of a span ends where nothing of it is open any more. -/
theorem leftOpen_of_readInner?
    {depth : Nat}
    {text inner after : Text}
    (found : readInner? depth text = some (inner, after)) :
    leftOpen (depth + 1) text = leftOpen 0 after := by
  fun_induction readInner? depth text generalizing inner after with
  | case1 => cases found
  | case2 depth text inductionHypothesis =>
      obtain ⟨⟨inside, rest⟩, inside_eq, same⟩ := Option.map_eq_some_iff.1 found
      cases same
      exact inductionHypothesis inside_eq
  | case3 text =>
      cases found
      rfl
  | case4 text depth inductionHypothesis =>
      obtain ⟨⟨inside, rest⟩, inside_eq, same⟩ := Option.map_eq_some_iff.1 found
      cases same
      exact inductionHypothesis inside_eq
  | case5 depth c text notOpener notCloser inductionHypothesis =>
      obtain ⟨⟨inside, rest⟩, inside_eq, same⟩ := Option.map_eq_some_iff.1 found
      cases same
      rw [leftOpen_plain _ c text notOpener notCloser]
      exact inductionHypothesis inside_eq

/-- A span whose inside does not end is open at the end. -/
theorem leftOpen_pos_of_readInner?
    {depth : Nat}
    {text : Text}
    (endless : readInner? depth text = none) :
    0 < leftOpen (depth + 1) text := by
  fun_induction readInner? depth text with
  | case1 depth => exact Nat.succ_pos depth
  | case2 depth text inductionHypothesis =>
      exact inductionHypothesis (Option.map_eq_none_iff.1 endless)
  | case3 => cases endless
  | case4 text depth inductionHypothesis =>
      exact inductionHypothesis (Option.map_eq_none_iff.1 endless)
  | case5 depth c text notOpener notCloser inductionHypothesis =>
      rw [leftOpen_plain _ c text notOpener notCloser]
      exact inductionHypothesis (Option.map_eq_none_iff.1 endless)

/-- A text without an opener leaves nothing open. -/
theorem leftOpen_zero_of_clear
    {text : Text}
    (clear : ¬ spanOpener <:+: text) :
    leftOpen 0 text = 0 := by
  induction text with
  | nil => rfl
  | cons c text inductionHypothesis =>
      rw [List.infix_cons_iff, not_or] at clear
      rw [leftOpen_zero_cons clear.1]
      exact inductionHypothesis clear.2

/-- What comes before the first opener leaves nothing open. -/
theorem leftOpen_of_cut?
    {text before rest : Text}
    (cut : Text.cut? spanOpener text = some (before, rest)) :
    leftOpen 0 text = leftOpen 1 rest := by
  obtain ⟨rfl, first⟩ := (Text.cut?_eq_some_iff spanOpener_ne_nil).1 cut
  clear cut
  induction before with
  | nil => rfl
  | cons c before inductionHypothesis =>
      rw [List.cons_append, List.infix_cons_iff, not_or] at first
      have notOpener : ¬ spanOpener <+: c :: (before ++ spanOpener ++ rest) := by
        rintro ⟨more, same⟩
        refine first.1 ?_
        cases before with
        | nil =>
            cases same
            exact ⟨[], rfl⟩
        | cons d before =>
            cases same
            exact ⟨before ++ spanOpener.dropLast, rfl⟩
      rw [List.cons_append, List.cons_append, leftOpen_zero_cons notOpener]
      exact inductionHypothesis first.2

/-- Behind a found span as much is open as behind the whole text. -/
theorem leftOpen_of_find
    {text : Text}
    {span : Span}
    (found : find text = .ok (some span)) :
    leftOpen 0 text = leftOpen 0 span.after := by
  unfold find at found
  split at found
  · cases found
  · next before rest cut =>
      split at found
      · next inner after inside =>
          cases found
          rw [leftOpen_of_cut? cut, leftOpen_of_readInner? inside]
      · cases found

/-- An opener without a closer leaves a span open. -/
theorem leftOpen_pos_of_find
    {text : Text}
    {fault : Fault}
    (failed : find text = .error fault) :
    0 < leftOpen 0 text := by
  unfold find at failed
  split at failed
  · cases failed
  · next before rest cut =>
      split at failed
      · cases failed
      · next endless =>
          rw [leftOpen_of_cut? cut]
          exact leftOpen_pos_of_readInner? endless

/-- What is behind a found span is shorter than the text. -/
theorem length_after_lt
    {text : Text}
    {span : Span}
    (found : find text = .ok (some span)) :
    span.after.length < text.length := by
  rw [eq_of_find found]
  simp only [whole, spanOpener, List.length_append, List.length_cons]
  omega

theorem leftOpen_pos_of_unclosed
    {text : Text}
    (unclosed : Unclosed text) :
    0 < leftOpen 0 text := by
  induction unclosed with
  | here failed => exact leftOpen_pos_of_find failed
  | behind found _ inductionHypothesis =>
      rw [leftOpen_of_find found]
      exact inductionHypothesis

theorem unclosed_of_leftOpen_pos
    {text : Text}
    (positive : 0 < leftOpen 0 text) :
    Unclosed text := by
  rcases found : find text with fault | _ | span
  · exact .here found
  · rw [leftOpen_zero_of_clear (find_eq_none_iff.1 found)] at positive
    exact absurd positive (Nat.lt_irrefl 0)
  · have shorter := length_after_lt found
    rw [leftOpen_of_find found] at positive
    exact .behind found (unclosed_of_leftOpen_pos positive)
termination_by text.length

/-- A text is unclosed exactly if a span is open at its end. -/
theorem unclosed_iff {text : Text} : Unclosed text ↔ 0 < leftOpen 0 text :=
  ⟨leftOpen_pos_of_unclosed, unclosed_of_leftOpen_pos⟩

instance (text : Text) : Decidable (Unclosed text) := decidable_of_iff _ unclosed_iff.symm

namespace Unclosed

/-- No text in front closes an unclosed text. -/
theorem append_left
    {text : Text}
    (unclosed : Unclosed text)
    (left : Text) :
    Unclosed (left ++ text) :=
  unclosed_iff.2
    (Nat.lt_of_lt_of_le (unclosed_iff.1 unclosed) (leftOpen_zero_le_append 0 left text))

/-- In an unclosed text what comes behind a span is unclosed as well. -/
theorem after
    {text : Text}
    {span : Span}
    (unclosed : Unclosed text)
    (found : find text = .ok (some span)) :
    Unclosed span.after := by
  cases unclosed with
  | here failed => cases failed.symm.trans found
  | behind other rest =>
      cases other.symm.trans found
      exact rest

end Unclosed
end Span

namespace PlacedSpan

/-- Listing the spans of a text fails exactly if the text is unclosed. -/
theorem all_eq_error_iff
    {offset : Nat}
    {text : Text} :
    (∃ fault, all offset text = .error fault) ↔ Span.Unclosed text := by
  unfold all
  generalize fuel_eq : text.length + 1 = fuel
  have enough : text.length < fuel := by omega
  clear fuel_eq
  induction fuel generalizing offset text with
  | zero => omega
  | succ fuel inductionHypothesis =>
      unfold allFrom
      rcases found : Span.find text with fault | _ | span
      · exact ⟨fun _ => .here found, fun _ => ⟨fault, rfl⟩⟩
      · constructor
        · rintro ⟨_, ⟨⟩⟩
        · intro unclosed
          cases unclosed with
          | here failed => cases failed.symm.trans found
          | behind other _ => cases other.symm.trans found
      · have shorter := Span.length_after_lt found
        have rest :
            (∃ fault, allFrom (PlacedSpan.end ⟨offset + Text.bytes span.before, span.inner⟩)
              fuel span.after = .error fault) ↔ Span.Unclosed span.after :=
          inductionHypothesis (by omega)
        have same : Span.Unclosed text ↔ Span.Unclosed span.after :=
          ⟨fun unclosed => unclosed.after found, .behind found⟩
        refine Iff.trans ?_ (rest.trans same.symm)
        simp only [bind, Except.bind]
        cases allFrom (PlacedSpan.end ⟨offset + Text.bytes span.before, span.inner⟩)
          fuel span.after <;> simp [pure, Except.pure]

end PlacedSpan
end CharacterSheet
