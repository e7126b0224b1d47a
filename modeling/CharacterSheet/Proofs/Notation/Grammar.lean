import CharacterSheet.Proofs.Notation.Span
import CharacterSheet.Proofs.Rendering.Origins
import Mathlib.Order.Bounds.Basic

/-!
# The grammar of spans

A span is a text between an opener and a closer. Between them stand plain characters,
at which neither an opener nor a closer begins, and further spans (`Span.Inside`). So
what may stand inside a span depends on the text behind it: a single brace is a plain
character only if no other one follows.

The reader of spans counts openers and closers instead. It reads exactly the insides of
the grammar (`Span.readInner?_zero_eq_some_iff`), because an inside is read through at
any depth (`Span.Inside.readInner?_append`). So the first span of a text is found where
the first opener stands, it ends where the grammar says, and only where the grammar has
no end the text is unterminated (`PlacedSpan.first_follows_grammar`).
-/

namespace CharacterSheet

namespace Span

/-- A text that may stand inside a span if `after` is what follows it. -/
inductive Inside : (inner after : Text) → Prop
  | nil (after : Text) : Inside [] after
  /-- A plain character, at which neither an opener nor a closer begins. -/
  | plain
      {c : Char}
      {inner after : Text}
      (notOpener : ¬ spanOpener <+: c :: (inner ++ after))
      (notCloser : ¬ spanCloser <+: c :: (inner ++ after))
      (rest : Inside inner after) :
      Inside (c :: inner) after
  /-- A nested span. -/
  | span
      {nested inner after : Text}
      (first : Inside nested (spanCloser ++ (inner ++ after)))
      (rest : Inside inner after) :
      Inside (spanOpener ++ nested ++ spanCloser ++ inner) after

/-- A text that is a span as a whole if `after` is what follows it. -/
def Derives (text after : Text) : Prop :=
  ∃ inner, text = spanOpener ++ inner ++ spanCloser ∧ Inside inner (spanCloser ++ after)

theorem readInner?_closer (depth : Nat) (text : Text) :
    readInner? (depth + 1) (spanCloser ++ text) =
      (readInner? depth text).map fun (more, rest) => (spanCloser ++ more, rest) := rfl

/-- An inside is read through at any depth. -/
theorem Inside.readInner?_append
    {inner after : Text}
    (inside : Inside inner after)
    (depth : Nat) :
    readInner? depth (inner ++ after) =
      (readInner? depth after).map fun (more, rest) => (inner ++ more, rest) := by
  induction inside generalizing depth with
  | nil after => simp
  | @plain c inner after notOpener notCloser rest inductionHypothesis =>
      have opensNot : ∀ rest, c = '{' → inner ++ after = '{' :: rest → False := by
        intro rest isOpener same
        apply notOpener
        simp [spanOpener, isOpener, same]
      have closesNot : ∀ rest, c = '}' → inner ++ after = '}' :: rest → False := by
        intro rest isCloser same
        apply notCloser
        simp [spanCloser, isCloser, same]
      rw [List.cons_append, readInner?_plain depth c _ opensNot closesNot,
        inductionHypothesis, Option.map_map]
      rfl
  | @span nested inner after first rest nestedHypothesis restHypothesis =>
      have whole : spanOpener ++ nested ++ spanCloser ++ inner ++ after =
          '{' :: '{' :: (nested ++ (spanCloser ++ (inner ++ after))) := by
        simp [spanOpener]
      rw [whole, readInner?, nestedHypothesis, readInner?_closer, restHypothesis]
      simp [Option.map_map, Function.comp_def, spanOpener]

/-- What is read from a text begins with an inside, and a closer follows. -/
theorem exists_inside_of_readInner?
    {depth : Nat}
    {text inner after : Text}
    (found : readInner? depth text = some (inner, after)) :
    ∃ first rest, text = first ++ (spanCloser ++ rest) ∧ Inside first (spanCloser ++ rest) := by
  -- behind a nested span the reader goes on at a later part of the text
  induction size : text.length using Nat.strongRecOn generalizing depth text inner after with
  | ind size inductionHypothesis =>
      subst size
      revert found
      fun_cases readInner? depth text with
      | case1 => exact nofun
      | case2 _ text =>
          intro found
          obtain ⟨⟨_, _⟩, read, -⟩ := Option.map_eq_some_iff.1 found
          have shorter : text.length < ('{' :: '{' :: text).length := by
            simp only [List.length_cons]
            omega
          obtain ⟨nested, behind, rfl, inside⟩ := inductionHypothesis _ shorter read rfl
          rw [inside.readInner?_append, readInner?_closer] at read
          obtain ⟨⟨_, _⟩, closed, -⟩ := Option.map_eq_some_iff.1 read
          obtain ⟨⟨_, _⟩, further, -⟩ := Option.map_eq_some_iff.1 closed
          have later : behind.length <
              ('{' :: '{' :: (nested ++ (spanCloser ++ behind))).length := by
            simp only [List.length_cons, List.length_append]
            omega
          obtain ⟨inner, rest, rfl, insideRest⟩ :=
            inductionHypothesis behind.length later further rfl
          refine ⟨spanOpener ++ nested ++ spanCloser ++ inner, rest, ?_, .span inside insideRest⟩
          simp [spanOpener]
      | case3 text | case4 text => exact fun _ => ⟨[], text, rfl, .nil _⟩
      | case5 _ c text opensNot closesNot =>
          intro found
          obtain ⟨⟨_, _⟩, read, -⟩ := Option.map_eq_some_iff.1 found
          obtain ⟨inner, rest, rfl, inside⟩ := inductionHypothesis _ (by simp) read rfl
          refine ⟨c :: inner, rest, rfl, .plain ?_ ?_ inside⟩
          · rintro ⟨more, same⟩
            injection same with isOpener behind
            exact opensNot more isOpener.symm behind.symm
          · rintro ⟨more, same⟩
            injection same with isCloser behind
            exact closesNot more isCloser.symm behind.symm

/-- The reader reads exactly the insides of the grammar. -/
theorem readInner?_zero_eq_some_iff {text inner after : Text} :
    readInner? 0 text = some (inner, after) ↔
      text = inner ++ (spanCloser ++ after) ∧ Inside inner (spanCloser ++ after) := by
  have reads {first rest : Text} (inside : Inside first (spanCloser ++ rest)) :
      readInner? 0 (first ++ (spanCloser ++ rest)) = some (first, rest) := by
    rw [inside.readInner?_append]
    simp [spanCloser, readInner?]
  constructor
  · intro found
    obtain ⟨first, rest, rfl, inside⟩ := exists_inside_of_readInner? found
    rw [reads inside] at found
    cases found
    exact ⟨rfl, inside⟩
  · rintro ⟨rfl, inside⟩
    exact reads inside

end Span

namespace Text

/-- A mark stands in a text at a byte offset. -/
def StandsAt (mark text : Text) (offset : Nat) : Prop :=
  ∃ before rest, text = before ++ (mark ++ rest) ∧ bytes before = offset

/-- Two beginnings of a text with as many bytes are the same. -/
theorem append_inj_of_bytes_eq
    {left right leftRest rightRest : Text}
    (same : left ++ leftRest = right ++ rightRest)
    (bytesEqual : bytes left = bytes right) :
    left = right ∧ leftRest = rightRest := by
  obtain ⟨between, rfl, rfl⟩ := exists_of_bytes_le same (Nat.le_of_eq bytesEqual.symm)
  rw [bytes_append] at bytesEqual
  obtain rfl := eq_nil_of_bytes_eq_zero (show bytes between = 0 by omega)
  simp

/-- From a byte offset on, a mark stands first where the text behind it is cut. -/
theorem isLeast_of_cut?
    {mark text before rest : Text}
    (proper : mark ≠ [])
    (cut : cut? mark text = some (before, rest))
    (passed : Text) :
    IsLeast {place | bytes passed ≤ place ∧ StandsAt mark (passed ++ text) place}
      (bytes passed + bytes before) := by
  obtain ⟨whole, first⟩ := (cut?_eq_some_iff proper).1 cut
  constructor
  · refine ⟨Nat.le_add_right _ _, passed ++ before, rest, ?_, bytes_append _ _⟩
    rw [whole]
    simp only [List.append_assoc]
  · rintro place ⟨behind, other, otherRest, same, rfl⟩
    obtain ⟨between, rfl, inText⟩ := exists_of_bytes_le same.symm behind
    rw [bytes_append]
    refine Nat.le_of_not_lt fun earlier => ?_
    -- a mark that stands earlier would stand in what comes before the cut
    rw [whole, List.append_assoc] at inText
    obtain ⟨tail, rfl, -⟩ := exists_of_bytes_le inText (by omega)
    have proper : tail ≠ [] := by
      rintro rfl
      simp at earlier
    have shorter : between.length < (between ++ tail).length := by
      have positive := List.length_pos_iff.2 proper
      rw [List.length_append]
      omega
    have both : between ++ mark ++ otherRest = between ++ tail ++ mark ++ rest := by
      simpa using inText.symm
    exact first (occurs_before shorter both)

end Text

namespace PlacedSpan

/-- The first span of a text that starts at a byte offset. -/
def first (offset : Nat) (text : Text) : Except Fault (Option PlacedSpan) :=
  (Span.find text).map (Option.map fun span => ⟨offset + Text.bytes span.before, span.inner⟩)

/-- A span of the grammar that stands in a text at its place. -/
def StandsIn (text : Text) (span : PlacedSpan) : Prop :=
  ∃ before after,
    text = before ++ (spanOpener ++ span.inner ++ spanCloser ++ after) ∧
    Text.bytes before = span.start ∧
    Span.Inside span.inner (spanCloser ++ after)

/-- The part of a text between two byte offsets is a span of the grammar. -/
def DerivedIn (text : Text) (start stop : Nat) : Prop :=
  ∃ before part after,
    text = before ++ (part ++ after) ∧
    Text.bytes before = start ∧
    Text.bytes before + Text.bytes part = stop ∧
    Span.Derives part after

theorem end_eq (span : PlacedSpan) :
    span.end = span.start + Text.bytes (spanOpener ++ span.inner ++ spanCloser) := by
  have opener : Text.bytes spanOpener = 2 := rfl
  have closer : Text.bytes spanCloser = 2 := rfl
  rw [Text.bytes_append, Text.bytes_append, opener, closer, PlacedSpan.end, innerEnd, innerStart]
  omega

/-- A part of a text is derived exactly if it is a span that stands there. -/
theorem derivedIn_iff
    {text : Text}
    {start stop : Nat} :
    DerivedIn text start stop ↔
      ∃ span : PlacedSpan, span.start = start ∧ span.StandsIn text ∧ span.end = stop := by
  constructor
  · rintro ⟨before, part, after, rfl, rfl, rfl, inner, rfl, inside⟩
    exact ⟨⟨Text.bytes before, inner⟩, rfl, ⟨before, after, rfl, rfl, inside⟩, end_eq _⟩
  · rintro ⟨span, rfl, ⟨before, after, rfl, here, inside⟩, rfl⟩
    refine ⟨before, _, after, rfl, here, ?_, span.inner, rfl, inside⟩
    rw [end_eq, here]

/-- The spans that stand at an opener are those that are read behind it. -/
theorem standsIn_append_iff
    {before rest : Text}
    {span : PlacedSpan}
    (here : span.start = Text.bytes before) :
    span.StandsIn (before ++ (spanOpener ++ rest)) ↔
      ∃ after, Span.readInner? 0 rest = some (span.inner, after) := by
  constructor
  · rintro ⟨other, after, same, there, inside⟩
    obtain ⟨rfl, behind⟩ := Text.append_inj_of_bytes_eq same (here.symm.trans there.symm)
    refine ⟨after, Span.readInner?_zero_eq_some_iff.2 ⟨?_, inside⟩⟩
    simpa [spanOpener] using behind
  · rintro ⟨after, read⟩
    obtain ⟨rfl, inside⟩ := Span.readInner?_zero_eq_some_iff.1 read
    exact ⟨before, after, by simp, here.symm, inside⟩

theorem first_of_clear
    {text : Text}
    (clear : ¬ spanOpener <:+: text)
    (offset : Nat) :
    first offset text = .ok none := by
  rw [first, Span.find_eq_none_iff.2 clear]
  rfl

/-- The first span of a text is read behind its first opener. -/
theorem first_of_cut?
    {text before rest : Text}
    (cut : Text.cut? spanOpener text = some (before, rest))
    (offset : Nat) :
    first offset text =
      match Span.readInner? 0 rest with
      | some (inner, _) => .ok (some ⟨offset + Text.bytes before, inner⟩)
      | none => .error (.unterminated (Span.excerpt (spanOpener ++ rest))) := by
  unfold first Span.find
  rw [cut]
  dsimp only
  cases Span.readInner? 0 rest <;> rfl

/-- The span that is found is the one that stands where the first opener is. -/
theorem first_eq_some_iff
    {text before rest : Text}
    (cut : Text.cut? spanOpener text = some (before, rest))
    (passed : Text)
    {span : PlacedSpan} :
    first (Text.bytes passed) text = .ok (some span) ↔
      span.start = Text.bytes passed + Text.bytes before ∧ span.StandsIn (passed ++ text) := by
  have split : passed ++ text = (passed ++ before) ++ (spanOpener ++ rest) := by
    simp [Text.cut?_eq_some cut]
  have stands (here : span.start = Text.bytes passed + Text.bytes before) :
      span.StandsIn (passed ++ text) ↔
        ∃ after, Span.readInner? 0 rest = some (span.inner, after) := by
    rw [split]
    exact standsIn_append_iff (by rw [here, Text.bytes_append])
  rw [first_of_cut? cut]
  constructor
  · intro found
    split at found
    · next inner after read =>
        cases found
        exact ⟨rfl, (stands rfl).2 ⟨after, read⟩⟩
    · cases found
  · rintro ⟨here, inText⟩
    obtain ⟨after, read⟩ := (stands here).1 inText
    rw [read]
    dsimp only
    rw [← here]

/-- From every offset on, the first span of a text is found exactly as the grammar says.
None is found if no opener stands there. Otherwise, where the first opener stands, the
span that is found is the one that stands there; it ends where a span of the grammar
can end, at one place only; and the text is unterminated exactly if there is no such
place. -/
theorem first_follows_grammar (passed text : Text) :
    let offset := Text.bytes passed
    let whole := passed ++ text
    let openers := {place | offset ≤ place ∧ Text.StandsAt spanOpener whole place}
    (first offset text = .ok none ↔ openers = ∅) ∧
      ∀ start, IsLeast openers start →
        (∀ span, first offset text = .ok (some span) ↔
          span.start = start ∧ span.StandsIn whole) ∧
        (∀ stop, DerivedIn whole start stop ↔
          ∃ span, first offset text = .ok (some span) ∧ span.end = stop) ∧
        ((∃ shown, first offset text = .error (.unterminated shown)) ↔
          ∀ stop, ¬ DerivedIn whole start stop) := by
  intro offset whole openers
  cases cut : Text.cut? spanOpener text with
  | none =>
      have clear := Text.cut?_eq_none_iff.1 cut
      have empty : openers = ∅ := by
        ext place
        refine iff_of_false ?_ (Set.notMem_empty place)
        rintro ⟨behind, before, rest, same, rfl⟩
        obtain ⟨between, -, inText⟩ := Text.exists_of_bytes_le same.symm behind
        exact clear ⟨between, rest, by simp [inText]⟩
      refine ⟨iff_of_true (first_of_clear clear offset) empty, ?_⟩
      intro start least
      rw [empty] at least
      exact absurd least.1 (Set.notMem_empty start)
  | some parts =>
      obtain ⟨before, rest⟩ := parts
      have isLeast := Text.isLeast_of_cut? spanOpener_ne_nil cut passed
      have found := first_of_cut? cut offset
      have nonempty : openers ≠ ∅ := Set.nonempty_iff_ne_empty.1 ⟨_, isLeast.1⟩
      refine ⟨iff_of_false ?_ nonempty, ?_⟩
      · rw [found]
        cases Span.readInner? 0 rest <;> simp
      intro start least
      obtain rfl := least.unique isLeast
      have ends (stop : Nat) : DerivedIn whole (Text.bytes passed + Text.bytes before) stop ↔
          ∃ span, first offset text = .ok (some span) ∧ span.end = stop := by
        simp only [derivedIn_iff, first_eq_some_iff cut passed, offset, whole, and_assoc]
      refine ⟨fun span => first_eq_some_iff cut passed, ends, ?_⟩
      simp only [ends, found]
      cases Span.readInner? 0 rest <;> simp

/-- Behind a span that was passed, a span with a single brace in it has one end, though
further braces and an open span follow. -/
theorem first_follows_grammar_of_braces :
    let passed : Text := "\x7b\x7bé\x7d\x7d ".toList
    let text : Text := "\x7d \x7b\x7bA:\x7b\x7b\x7bB\x7d\x7d\x7d\x7d\x7d \x7b\x7bC".toList
    IsLeast {place | 7 ≤ place ∧ Text.StandsAt spanOpener (passed ++ text) place} 9 ∧
      first 7 text = .ok (some ⟨9, "A:\x7b\x7b\x7bB\x7d\x7d".toList⟩) ∧
      ∀ stop, DerivedIn (passed ++ text) 9 stop ↔ stop = 21 := by
  intro passed text
  have cut : Text.cut? spanOpener text =
      some ("\x7d ".toList, "A:\x7b\x7b\x7bB\x7d\x7d\x7d\x7d\x7d \x7b\x7bC".toList) := rfl
  have least := Text.isLeast_of_cut? spanOpener_ne_nil cut passed
  have found : first 7 text = .ok (some ⟨9, "A:\x7b\x7b\x7bB\x7d\x7d".toList⟩) := rfl
  obtain ⟨-, ends, -⟩ := (first_follows_grammar passed text).2 9 least
  refine ⟨least, found, fun stop => (ends stop).trans ?_⟩
  constructor
  · rintro ⟨span, other, rfl⟩
    cases found.symm.trans other
    rfl
  · rintro rfl
    exact ⟨_, found, rfl⟩

end PlacedSpan
end CharacterSheet
