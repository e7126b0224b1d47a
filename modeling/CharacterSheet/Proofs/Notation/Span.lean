import CharacterSheet.Notation.Span
import CharacterSheet.Proofs.Text.Search

/-!
# Spans and the text around them

A span is found by its own characters: text behind it can be added, and text in
front of it too, as long as no opener stands in that text or arises at its end.
What stands before a found span is such a text, whatever takes the place of the
span, because its last character is not a brace that opens. This is what a scan
that goes on from the place of a replaced span rests on.
-/

namespace CharacterSheet

theorem spanOpener_ne_nil : spanOpener ≠ [] := List.cons_ne_nil _ _

/-- An opener arises across a seam exactly from a brace on each side. -/
theorem spanOpener_infix_append_iff {left right : Text} :
    spanOpener <:+: left ++ right ↔
      spanOpener <:+: left ∨ spanOpener <:+: right ∨
        (left.getLast? = some '{' ∧ right.head? = some '{') := by
  rw [List.infix_append_iff_ne_nil, ← List.singleton_suffix_iff_getLast?_eq_some,
    ← List.singleton_prefix_iff_head?_eq_some]
  constructor
  · rintro (inLeft | inRight | ⟨first, second, firstProper, secondProper, whole, ends, starts⟩)
    · exact Or.inl inLeft
    · exact Or.inr (Or.inl inRight)
    · match first, second with
      | [_], [_] =>
          cases whole
          exact Or.inr (Or.inr ⟨ends, starts⟩)
      | [], _ => exact absurd rfl firstProper
      | _, [] => exact absurd rfl secondProper
      | [_], _ :: _ :: _ => simp [spanOpener] at whole
      | _ :: _ :: _, _ :: _ => simp [spanOpener] at whole
  · rintro (inLeft | inRight | ⟨ends, starts⟩)
    · exact Or.inl inLeft
    · exact Or.inr (Or.inl inRight)
    · exact Or.inr (Or.inr ⟨['{'], ['{'], by simp, by simp, rfl, ends, starts⟩)

/-- No opener arises where a text stands between two others, if it neither begins nor
ends with a brace that opens. -/
theorem spanOpener_infix_append_between_iff
    {left middle right : Text}
    (proper : middle ≠ [])
    (begins : middle.head? ≠ some '{')
    (ends : middle.getLast? ≠ some '{') :
    spanOpener <:+: left ++ middle ++ right ↔
      spanOpener <:+: left ∨ spanOpener <:+: middle ∨ spanOpener <:+: right := by
  have lastOfBoth : (left ++ middle).getLast? ≠ some '{' := by
    rw [List.getLast?_append, List.getLast?_eq_some_getLast proper, Option.some_or]
    rwa [List.getLast?_eq_some_getLast proper] at ends
  rw [spanOpener_infix_append_iff, spanOpener_infix_append_iff]
  constructor
  · rintro ((inLeft | inMiddle | seam) | inRight | seam)
    · exact Or.inl inLeft
    · exact Or.inr (Or.inl inMiddle)
    · exact absurd seam.2 begins
    · exact Or.inr (Or.inr inRight)
    · exact absurd seam.1 lastOfBoth
  · rintro (inLeft | inMiddle | inRight)
    · exact Or.inl (Or.inl inLeft)
    · exact Or.inl (Or.inr (Or.inl inMiddle))
    · exact Or.inr (Or.inl inRight)

/-- No opener stands in the left text or arises where the right one follows. -/
structure Sealed (left right : Text) : Prop where
  clear : ¬ spanOpener <:+: left
  seam : ¬ (left.getLast? = some '{' ∧ right.head? = some '{')

namespace Sealed

theorem nil (right : Text) : Sealed [] right where
  clear := by simp [spanOpener]
  seam := by simp

end Sealed

/-- A text that is sealed against anything that may follow. -/
def Passed (text : Text) : Prop := ∀ right, Sealed text right

namespace Passed

theorem nil : Passed [] := Sealed.nil

/-- A scan passes what stands before a span. -/
theorem append
    {passed next : Text}
    (first : Passed passed)
    (second : Passed next) :
    Passed (passed ++ next) := by
  intro right
  refine ⟨?_, ?_⟩
  · rw [spanOpener_infix_append_iff]
    rintro (inFirst | inSecond | both)
    · exact (first right).clear inFirst
    · exact (second right).clear inSecond
    · exact (first next).seam both
  · rintro ⟨ends, starts⟩
    rw [List.getLast?_append] at ends
    cases last : next.getLast? with
    | none =>
        rw [last, Option.none_or] at ends
        exact (first right).seam ⟨ends, starts⟩
    | some c =>
        rw [last, Option.some_or] at ends
        exact (second right).seam ⟨last.trans ends, starts⟩

theorem clear
    {text : Text}
    (passed : Passed text) :
    ¬ spanOpener <:+: text :=
  (passed []).clear

/-- A text without braces that open is sealed. -/
theorem of_not_mem
    {text : Text}
    (absent : '{' ∉ text) :
    Passed text := by
  intro right
  refine ⟨fun occurs => ?_, fun ⟨ends, _⟩ => absent (List.mem_of_getLast? ends)⟩
  exact absent (occurs.subset (by decide))

/-- A text without an opener is sealed by one without braces behind it. -/
theorem append_of_clear
    {text close : Text}
    (clear : ¬ spanOpener <:+: text)
    (proper : close ≠ [])
    (absent : '{' ∉ close) :
    Passed (text ++ close) := by
  intro right
  refine ⟨?_, ?_⟩
  · rw [spanOpener_infix_append_iff]
    rintro (inText | inClose | ⟨-, starts⟩)
    · exact clear inText
    · exact (of_not_mem absent).clear inClose
    · exact absent (List.mem_of_head? starts)
  · rintro ⟨ends, -⟩
    rw [List.getLast?_append, List.getLast?_eq_some_getLast proper, Option.some_or] at ends
    exact absent (Option.some.inj ends ▸ List.getLast_mem proper)

theorem flatten
    {texts : List Text}
    (passed : ∀ text ∈ texts, Passed text) :
    Passed texts.flatten := by
  induction texts with
  | nil => exact nil
  | cons text texts inductionHypothesis =>
      obtain ⟨first, rest⟩ := List.forall_mem_cons.1 passed
      exact first.append (inductionHypothesis rest)

end Passed

namespace Span

/-- A character that neither opens nor closes belongs to the inside. -/
theorem readInner?_plain
    (depth : Nat)
    (c : Char)
    (text : Text)
    (notOpener : ∀ rest, c = '{' → text = '{' :: rest → False)
    (notCloser : ∀ rest, c = '}' → text = '}' :: rest → False) :
    readInner? depth (c :: text) =
      (readInner? depth text).map fun (inner, after) => (c :: inner, after) := by
  rw [readInner?]
  · exact notOpener
  · exact notCloser

/-- The inside of a span does not depend on what follows the text. -/
theorem readInner?_append
    {depth : Nat}
    {text inner after : Text}
    (found : readInner? depth text = some (inner, after))
    (more : Text) :
    readInner? depth (text ++ more) = some (inner, after ++ more) := by
  fun_induction readInner? depth text generalizing inner after with
  | case1 => cases found
  | case2 depth text inductionHypothesis =>
      obtain ⟨⟨inside, rest⟩, inside_eq, same⟩ := Option.map_eq_some_iff.1 found
      cases same
      simp [readInner?, inductionHypothesis inside_eq]
  | case3 text =>
      cases found
      simp [readInner?]
  | case4 text depth inductionHypothesis =>
      obtain ⟨⟨inside, rest⟩, inside_eq, same⟩ := Option.map_eq_some_iff.1 found
      cases same
      simp [readInner?, inductionHypothesis inside_eq]
  | case5 depth c text notOpener notCloser inductionHypothesis =>
      obtain ⟨⟨inside, rest⟩, inside_eq, same⟩ := Option.map_eq_some_iff.1 found
      cases same
      cases text with
      | nil => simp [readInner?] at inside_eq
      | cons d text =>
          have extended := inductionHypothesis inside_eq
          have plain := readInner?_plain depth c (d :: (text ++ more))
            (fun rest isOpener same => by
              obtain ⟨rfl, -⟩ := List.cons.inj same
              exact notOpener text isOpener rfl)
            (fun rest isCloser same => by
              obtain ⟨rfl, -⟩ := List.cons.inj same
              exact notCloser text isCloser rfl)
          rw [List.cons_append, List.cons_append, plain, ← List.cons_append, extended]
          rfl

/-- Where no span is found no opener stands. -/
theorem find_eq_none_iff {text : Text} :
    find text = .ok none ↔ ¬ spanOpener <:+: text := by
  rw [← Text.cut?_eq_none_iff]
  unfold find
  cases Text.cut? spanOpener text with
  | none => simp
  | some parts =>
      obtain ⟨before, rest⟩ := parts
      cases inside : readInner? 0 rest <;> simp [inside]

/-- What is found does not depend on what follows the text. -/
theorem find_append_right
    {text : Text}
    {span : Span}
    (found : find text = .ok (some span))
    (more : Text) :
    find (text ++ more) = .ok (some { span with after := span.after ++ more }) := by
  unfold find at found ⊢
  cases cut : Text.cut? spanOpener text with
  | none => simp [cut] at found
  | some parts =>
      obtain ⟨before, rest⟩ := parts
      simp only [cut] at found
      cases inside : readInner? 0 rest with
      | none => simp [inside] at found
      | some parts =>
          obtain ⟨inner, after⟩ := parts
          simp only [inside] at found
          cases found
          rw [Text.cut?_append_right spanOpener_ne_nil cut more]
          simp only [readInner?_append inside more]

/-- Before a found span there is no opener, and no brace that could become one. -/
theorem sealed_before
    {text : Text}
    {span : Span}
    (found : find text = .ok (some span))
    (right : Text) :
    Sealed span.before right := by
  unfold find at found
  cases cut : Text.cut? spanOpener text with
  | none => simp [cut] at found
  | some parts =>
      obtain ⟨before, rest⟩ := parts
      simp only [cut] at found
      cases inside : readInner? 0 rest with
      | none => simp [inside] at found
      | some parts =>
          simp only [inside] at found
          cases found
          have first := Text.not_infix_of_cut? spanOpener_ne_nil cut
          change ¬ spanOpener <:+: before ++ ['{'] at first
          rw [spanOpener_infix_append_iff, not_or, not_or] at first
          obtain ⟨clear, -, seam⟩ := first
          exact ⟨clear, fun both => seam ⟨both.1, rfl⟩⟩

/-- A text in front, sealed against the text, moves the span that is found. -/
theorem find_append_left
    {left right : Text}
    (apart : Sealed left right) :
    find (left ++ right) =
      (find right).map
        (Option.map fun span => { span with before := left ++ span.before }) := by
  unfold find
  cases cut : Text.cut? spanOpener right with
  | none =>
      have absent : Text.cut? spanOpener (left ++ right) = none := by
        rw [Text.cut?_eq_none_iff, spanOpener_infix_append_iff]
        rintro (inLeft | inRight | both)
        · exact apart.clear inLeft
        · exact Text.cut?_eq_none_iff.1 cut inRight
        · exact apart.seam both
      rw [absent]
      rfl
  | some parts =>
      obtain ⟨before, rest⟩ := parts
      have moved : Text.cut? spanOpener (left ++ right) = some (left ++ before, rest) := by
        obtain ⟨whole, first⟩ := (Text.cut?_eq_some_iff spanOpener_ne_nil).1 cut
        refine (Text.cut?_eq_some_iff spanOpener_ne_nil).2 ⟨?_, ?_⟩
        · rw [whole]
          simp only [List.append_assoc]
        · rw [List.append_assoc, spanOpener_infix_append_iff]
          rintro (inLeft | inRight | ⟨ends, starts⟩)
          · exact apart.clear inLeft
          · exact first inRight
          · refine apart.seam ⟨ends, ?_⟩
            rw [whole]
            cases before with
            | nil => rfl
            | cons c before => exact starts
      simp only [moved]
      cases readInner? 0 rest <;> rfl

end Span
end CharacterSheet
