import CharacterSheet.Notation.Quoted
import CharacterSheet.Proofs.Notation.Limit
import CharacterSheet.Proofs.Notation.Unclosed

/-!
# Arguments of spans

The reader of spans pairs every opener with a closer, and the reader of arguments does the same as
long as no argument is quoted: what may stand inside a span is passed over by it at any depth
(`Span.Inside.pieces_append`). So a span is cut only between its nested spans, and each argument is
again a text that may stand inside a span (`Span.Inside.of_mem_pieces`). In such a text every opener
has its closer and every closer its opener (`Span.Inside.settled`).
-/

namespace CharacterSheet

theorem spanOpener_prefix_cons_iff {c : Char} {text : Text} :
    spanOpener <+: c :: text ↔ c = '{' ∧ text.head? = some '{' := by
  cases text <;> simp [spanOpener, eq_comm]

theorem spanCloser_prefix_cons_iff {c : Char} {text : Text} :
    spanCloser <+: c :: text ↔ c = '}' ∧ text.head? = some '}' := by
  cases text <;> simp [spanCloser, eq_comm]

namespace Span

/-- Every closer of a text belongs to one of its spans: none stands before, between or behind
them. -/
inductive Settled : Text → Prop
  | clear
      {text : Text}
      (found : find text = .ok none)
      (closed : ¬ spanCloser <:+: text) :
      Settled text
  | behind
      {text : Text}
      {span : Span}
      (found : find text = .ok (some span))
      (closed : ¬ spanCloser <:+: span.before)
      (rest : Settled span.after) :
      Settled text

/-- In a settled text no opener lacks its closer either. -/
theorem Settled.not_unclosed
    {text : Text}
    (settled : Settled text) :
    ¬ Unclosed text := by
  induction settled with
  | clear found _ =>
      intro unclosed
      cases unclosed with
      | here failed => cases failed.symm.trans found
      | behind other _ => cases other.symm.trans found
  | behind found _ _ inductionHypothesis =>
      exact fun unclosed => inductionHypothesis (unclosed.after found)

/-- What a found span holds may stand inside a span. -/
theorem exists_inside_of_find
    {text : Text}
    {span : Span}
    (found : find text = .ok (some span)) :
    ∃ after, Inside span.inner after := by
  unfold find at found
  split at found
  · cases found
  · split at found
    · next read =>
        cases found
        exact ⟨_, (readInner?_zero_eq_some_iff.1 read).2⟩
    · cases found

namespace Inside

variable {inner after other : Text}

/-- An inside stays one if nothing follows it, or if what follows begins with the same character. -/
theorem of_head?
    (inside : Inside inner after)
    (begins : ∀ c ∈ other.head?, after.head? = some c) :
    Inside inner other := by
  induction inside generalizing other with
  | nil => exact .nil other
  | @plain c inner after notOpener notCloser rest inductionHypothesis =>
      have next : ∀ d ∈ (inner ++ other).head?, (inner ++ after).head? = some d := by
        cases inner with
        | nil => exact begins
        | cons d inner => exact fun _ same => same
      refine .plain (fun opens => notOpener ?_) (fun closes => notCloser ?_)
        (inductionHypothesis begins)
      · obtain ⟨isOpener, follows⟩ := spanOpener_prefix_cons_iff.1 opens
        exact spanOpener_prefix_cons_iff.2 ⟨isOpener, next _ follows⟩
      · obtain ⟨isCloser, follows⟩ := spanCloser_prefix_cons_iff.1 closes
        exact spanCloser_prefix_cons_iff.2 ⟨isCloser, next _ follows⟩
  | span _ _ nestedHypothesis restHypothesis =>
      exact .span (nestedHypothesis fun _ same => same) (restHypothesis begins)

/-- What stands behind a text without braces that open is an inside as well. -/
theorem of_append_left
    {left : Text}
    (absent : '{' ∉ left)
    (inside : Inside (left ++ inner) after) :
    Inside inner after := by
  induction left with
  | nil => exact inside
  | cons c left inductionHypothesis =>
      rw [List.mem_cons, not_or] at absent
      generalize whole : c :: left ++ inner = text at inside
      cases inside with
      | nil => cases whole
      | plain _ _ rest =>
          have same : left ++ inner = _ := (List.cons.inj whole).2
          exact inductionHypothesis absent.2 (by rwa [same])
      | span => exact absurd (List.cons.inj whole).1.symm absent.1

/-- What stands in front of a text without braces that close is an inside as well. -/
theorem of_append_right
    {right : Text}
    (absent : '}' ∉ right)
    (inside : Inside (inner ++ right) after) :
    Inside inner (right ++ after) := by
  generalize whole : inner ++ right = text at inside
  induction inside generalizing inner with
  | nil after =>
      obtain ⟨rfl, rfl⟩ := List.append_eq_nil_iff.1 whole
      exact .nil _
  | @plain c text after notOpener notCloser rest inductionHypothesis =>
      cases inner with
      | nil => exact .nil _
      | cons d inner =>
          obtain rfl : d = c := (List.cons.inj whole).1
          have same : inner ++ right = text := (List.cons.inj whole).2
          rw [← same, List.append_assoc] at notOpener notCloser
          exact .plain notOpener notCloser (inductionHypothesis same)
  | @span nested text after first rest nestedHypothesis restHypothesis =>
      rcases List.append_eq_append_iff.1 whole with ⟨cut, same, rfl⟩ | ⟨cut, rfl, rfl⟩
      · -- the nested span ends with a brace, which is not left off
        obtain rfl : cut = [] := by
          cases cut using List.reverseRecOn with
          | nil => rfl
          | append_singleton cut c =>
              have ends := congrArg List.getLast? same
              rw [← List.append_assoc, List.getLast?_concat, List.getLast?_append] at ends
              obtain rfl : '}' = c := Option.some.inj ends
              exact absurd (by simp) absent
        rw [List.append_nil] at same
        rw [← same, ← List.append_nil (spanOpener ++ nested ++ spanCloser)]
        exact .span first (.nil _)
      · rw [List.append_assoc] at first
        exact .span first (restHypothesis rfl)

/-- Without the blanks around it an inside is one on its own. -/
theorem trim (inside : Inside inner after) : Inside (Text.trim inner) [] := by
  obtain ⟨left, right, blankLeft, blankRight, whole⟩ := Text.exists_padding inner
  have absent {blanks : Text} (blank : ∀ c ∈ blanks, isBlank c = true) {c : Char}
      (shown : isBlank c = false) : c ∉ blanks := fun member =>
    Arguments.ne_of_isBlank (blank c member) shown rfl
  rw [whole] at inside
  exact ((inside.of_append_left (absent blankLeft (by decide))).of_append_right
    (absent blankRight (by decide))).of_head? nofun

/-- In an inside every closer belongs to a span. -/
theorem settled (inside : Inside inner after) : Settled inner := by
  induction inside with
  | nil => exact .clear rfl (by simp [spanCloser])
  | @plain c inner after notOpener notCloser rest inductionHypothesis =>
      have apart : Sealed [c] inner := by
        refine ⟨fun occurs => ?_, fun opens => notOpener ?_⟩
        · exact absurd occurs.length_le (by simp [spanOpener])
        · rw [spanOpener_prefix_cons_iff, List.head?_append, opens.2]
          exact ⟨Option.some.inj opens.1, rfl⟩
      have alone {text : Text} (within : text <+: inner) : ¬ spanCloser <+: c :: text :=
        fun closes => notCloser (closes.trans ((List.prefix_cons_inj c).2
          (within.trans (List.prefix_append inner after))))
      have moved := find_append_left apart
      cases inductionHypothesis with
      | clear found closed =>
          rw [found] at moved
          refine .clear moved ?_
          exact (List.infix_cons_iff.not.trans not_or).2 ⟨alone List.prefix_rfl, closed⟩
      | @behind _ span found closed others =>
          rw [found] at moved
          refine .behind moved ?_ others
          refine (List.infix_cons_iff.not.trans not_or).2 ⟨alone ?_, closed⟩
          rw [eq_of_find found, List.append_assoc]
          exact List.prefix_append _ _
  | @span nested inner after first rest nestedHypothesis restHypothesis =>
      have alone : Inside nested (spanCloser ++ inner) := first.of_head? fun _ same => same
      have found := find_of_inside List.not_mem_nil alone
      exact .behind found (by simp [spanCloser]) restHypothesis

end Inside
end Span

namespace Arguments

variable {separator : Char} {cuts : Nat} {place : Place}

/-- Once an argument has begun, its characters change nothing about the place. -/
theorem Place.pass_of_begun
    (unquoted : place.quote? = none)
    (begun : place.fresh = false)
    (c : Char) :
    place.pass c = place := by
  cases place
  simp_all [Place.pass]

/-- A span is passed as a whole if its inside is. -/
theorem pieces_span
    {nested rest : Text}
    (unquoted : place.quote? = none)
    (passes : pieces separator cuts place.enter (nested ++ (spanCloser ++ rest)) =
      prepend nested (pieces separator cuts place.enter (spanCloser ++ rest))) :
    pieces separator cuts place (spanOpener ++ nested ++ spanCloser ++ rest) =
      prepend (spanOpener ++ nested ++ spanCloser)
        (pieces separator cuts place.enter.leave rest) := by
  have closes : pieces separator cuts place.enter (spanCloser ++ rest) =
      prepend spanCloser (pieces separator cuts place.enter.leave rest) :=
    pieces_cons_of_closes unquoted (fun opens => absurd opens.1 (by decide))
      ⟨Nat.succ_pos _, rfl, rfl⟩
  have opens : pieces separator cuts place (spanOpener ++ (nested ++ (spanCloser ++ rest))) =
      prepend spanOpener (pieces separator cuts place.enter (nested ++ (spanCloser ++ rest))) :=
    pieces_cons_of_opens unquoted ⟨rfl, rfl⟩
  rw [List.append_assoc, List.append_assoc, opens, passes, closes, ← prepend_append,
    ← prepend_append, List.append_assoc]

/-- The first piece is what the text begins with. -/
theorem begins_of_pieces
    {piece content : Text}
    {others : List Text}
    (read : pieces separator cuts place content = piece :: others) :
    piece <+: content := by
  have whole := join_pieces separator cuts place content
  rw [read] at whole
  cases others with
  | nil => exact ⟨[], by simpa using whole⟩
  | cons next others => exact ⟨_, by simpa using whole⟩

/-- An argument that does not begin with a quote. -/
def IsUnquoted (argument : Text) : Prop := ∀ c ∈ argument.head?, Quoted.isQuote c = false

/-- None of the pieces that are read from a place on begins with a quote. -/
structure Unquoted (place : Place) (pieces : List Text) : Prop where
  first : place.fresh = true → ∀ piece ∈ pieces.head?, IsUnquoted (Text.trim piece)
  others : ∀ piece ∈ pieces.tail, IsUnquoted (Text.trim piece)

namespace Unquoted

theorem start_iff {pieces : List Text} :
    Unquoted .start pieces ↔ ∀ piece ∈ pieces, IsUnquoted (Text.trim piece) := by
  cases pieces with
  | nil => exact iff_of_true ⟨fun _ => nofun, nofun⟩ nofun
  | cons piece pieces =>
      rw [List.forall_mem_cons]
      exact ⟨fun unquoted => ⟨unquoted.first rfl piece rfl, unquoted.others⟩,
        fun ⟨first, others⟩ => ⟨fun _ _ same => Option.some.inj same ▸ first, others⟩⟩

variable {piece : Text} {pieces : List Text} {c : Char}

/-- A character that belongs to such a piece does not open a quote. -/
theorem pass
    (unquoted : Unquoted place ((c :: piece) :: pieces)) :
    (place.pass c).quote? = none ∧ Unquoted (place.pass c) (piece :: pieces) := by
  have others := unquoted.others
  cases begun : place.fresh with
  | false => exact ⟨by simp [Place.pass, begun], by simp [Place.pass, begun], others⟩
  | true =>
      have first := unquoted.first begun _ rfl
      cases blank : isBlank c with
      | true =>
          have notSingle : c ≠ '\'' := ne_of_isBlank blank (by decide)
          have notDouble : c ≠ '"' := ne_of_isBlank blank (by decide)
          rw [Text.trim_cons_of_blank blank] at first
          exact ⟨by simp [Place.pass, notSingle, notDouble],
            fun _ _ same => Option.some.inj same ▸ first, others⟩
      | false =>
          rw [Text.trim_cons_of_shown blank] at first
          have notQuote : Quoted.isQuote c = false := first c rfl
          rw [Quoted.isQuote] at notQuote
          exact ⟨by simp [Place.pass, notQuote], by simp [Place.pass, blank], others⟩

end Unquoted

end Arguments

namespace Span.Inside

open Arguments

variable {inner after : Text} {separator : Char} {cuts : Nat} {place : Place}

/-- In a span what may stand there is passed over. -/
theorem pieces_append
    (inside : Inside inner after)
    (deep : 0 < place.depth)
    (unquoted : place.quote? = none)
    (begun : place.fresh = false) :
    pieces separator cuts place (inner ++ after) =
      prepend inner (pieces separator cuts place after) := by
  induction inside generalizing place with
  | nil => rfl
  | @plain c inner after notOpener notCloser rest inductionHypothesis =>
      rw [spanOpener_prefix_cons_iff] at notOpener
      rw [spanCloser_prefix_cons_iff] at notCloser
      rw [List.cons_append, pieces_cons_of_goesOn unquoted notOpener
          (fun closes => notCloser closes.2) (fun ends => absurd ends.1 (by omega)),
        Place.pass_of_begun unquoted begun, inductionHypothesis deep unquoted begun]
      rfl
  | @span nested inner after first rest nestedHypothesis restHypothesis =>
      have passes : pieces separator cuts place.enter (nested ++ (spanCloser ++ (inner ++ after))) =
          prepend nested (pieces separator cuts place.enter (spanCloser ++ (inner ++ after))) :=
        nestedHypothesis (Nat.succ_pos _) unquoted rfl
      have same : place.enter.leave = place := by
        cases place
        simp_all [Place.enter, Place.leave]
      rw [List.append_assoc, pieces_span unquoted passes, same,
        restHypothesis deep unquoted begun, ← prepend_append]

/-- Each piece of an inside is an inside, if none of them is quoted. -/
theorem of_mem_pieces
    (inside : Inside inner after)
    (outside : place.depth = 0)
    (unopened : place.quote? = none)
    (unquoted : Unquoted place (pieces ',' cuts place inner)) :
    ∀ piece ∈ pieces ',' cuts place inner, Inside piece [] := by
  -- a nested span is passed as a whole, so only a comma between spans ends a piece
  induction inside generalizing place cuts with
  | nil =>
      intro piece member
      rw [pieces, List.mem_singleton] at member
      rw [member]
      exact .nil []
  | @plain c inner after notOpener notCloser rest inductionHypothesis =>
      have notOpens : ¬ (c = '{' ∧ inner.head? = some '{') := fun opens =>
        notOpener ((spanOpener_prefix_cons_iff.2 opens).trans
          ((List.prefix_cons_inj c).2 (List.prefix_append inner after)))
      have notCloses : ¬ (0 < place.depth ∧ c = '}' ∧ inner.head? = some '}') :=
        fun closes => absurd closes.1 (by omega)
      by_cases ends : place.depth = 0 ∧ c = ',' ∧ 0 < cuts
      · rw [pieces_cons_of_ends unopened notOpens notCloses ends] at unquoted ⊢
        rw [List.forall_mem_cons]
        exact ⟨.nil [], inductionHypothesis rfl rfl (Unquoted.start_iff.2 unquoted.others)⟩
      · rw [pieces_cons_of_goesOn unopened notOpens notCloses ends] at unquoted ⊢
        obtain ⟨first, others, read⟩ :=
          List.exists_cons_of_ne_nil (pieces_ne_nil ',' cuts (place.pass c) inner)
        rw [read] at unquoted ⊢
        obtain ⟨stillUnopened, unquoted⟩ := unquoted.pass
        have stillUnquoted : Unquoted (place.pass c) (pieces ',' cuts (place.pass c) inner) :=
          read ▸ unquoted
        have stillOutside : (place.pass c).depth = 0 := outside
        have insides := inductionHypothesis stillOutside stillUnopened stillUnquoted
        rw [read, List.forall_mem_cons] at insides
        have within : c :: (first ++ []) <+: c :: (inner ++ after) := by
          rw [List.append_nil, List.prefix_cons_inj]
          exact (begins_of_pieces read).trans (List.prefix_append _ _)
        change ∀ piece ∈ (c :: first) :: others, Inside piece []
        rw [List.forall_mem_cons]
        exact ⟨.plain (fun opens => notOpener (opens.trans within))
          (fun closes => notCloser (closes.trans within)) insides.1, insides.2⟩
  | @span nested inner after first rest nestedHypothesis restHypothesis =>
      have alone {text : Text} : Inside nested (spanCloser ++ text) :=
        first.of_head? fun _ same => same
      have passes : pieces ',' cuts place.enter (nested ++ (spanCloser ++ inner)) =
          prepend nested (pieces ',' cuts place.enter (spanCloser ++ inner)) :=
        alone.pieces_append (Nat.succ_pos _) unopened rfl
      rw [pieces_span unopened passes] at unquoted ⊢
      obtain ⟨piece, others, read⟩ :=
        List.exists_cons_of_ne_nil (pieces_ne_nil ',' cuts place.enter.leave inner)
      rw [read, prepend_cons] at unquoted ⊢
      have stillOutside : place.enter.leave.depth = 0 := (Nat.add_sub_cancel _ 1).trans outside
      have stillUnquoted :
          Unquoted place.enter.leave (pieces ',' cuts place.enter.leave inner) := by
        rw [read]
        exact ⟨fun fresh => absurd fresh Bool.false_ne_true, unquoted.others⟩
      have insides := restHypothesis stillOutside unopened stillUnquoted
      rw [read, List.forall_mem_cons] at insides
      rw [List.forall_mem_cons]
      exact ⟨.span alone insides.1, insides.2⟩

end Span.Inside

namespace Operation

/-- The content of a handler stands behind a text without braces that open. -/
theorem eq_of_splitHandler?
    {text name content : Text}
    (parts : splitHandler? text = some (name, content)) :
    ∃ before, '{' ∉ before ∧ text = before ++ content := by
  obtain ⟨⟨before, behind⟩, cut, named⟩ := Option.bind_eq_some_iff.1 parts
  obtain ⟨-, rfl⟩ := Text.cutAt?_eq_some_iff.1 cut
  dsimp only at named
  split at named
  · next isName =>
      cases named
      obtain ⟨left, right, blankLeft, blankRight, whole⟩ := Text.exists_padding before
      refine ⟨before ++ [':'], ?_, by simp⟩
      rw [whole]
      simp only [List.mem_append, List.mem_singleton]
      rintro ((inLeft | inName | inRight) | isColon)
      · exact Arguments.ne_of_isBlank (blankLeft '{' inLeft) (by decide) rfl
      · rw [Bool.and_eq_true, List.all_eq_true] at isName
        exact absurd (isName.2 '{' inName) (by decide)
      · exact Arguments.ne_of_isBlank (blankRight '{' inRight) (by decide) rfl
      · exact absurd isColon (by decide)
  · cases named

/-- The content of a call is empty or ends the text of the span, behind a text without braces that
open. -/
theorem eq_of_call
    {inner content : Text}
    {name : String}
    (called : ofInner inner = .ok (.call name content)) :
    content = [] ∨ ∃ before, '{' ∉ before ∧ Text.trim inner = before ++ content := by
  unfold ofInner at called
  dsimp only at called
  split at called
  · cases called
  · split at called
    · cases called
      exact Or.inl rfl
    · split at called
      · next parts =>
          cases called
          exact Or.inr (eq_of_splitHandler? parts)
      · cases called

end Operation

namespace Span

/-- The arguments of a span are well-formed texts themselves, unless one is quoted: no opener in
them lacks its closer, and every closer belongs to a span. This holds of the inside of a span as of
the content of the call that it is read as. -/
theorem arguments_settled
    {text content : Text}
    {span : Span}
    (found : find text = .ok (some span))
    (isContent : content = span.inner ∨
      ∃ name, Operation.ofInner span.inner = .ok (.call name content))
    (unquoted : ∀ argument ∈ Arguments.ofContent content,
      ∀ c ∈ argument.head?, Quoted.isQuote c = false) :
    ∀ argument ∈ Arguments.ofContent content, ¬ Unclosed argument ∧ Settled argument := by
  have inside : Inside content [] := by
    obtain ⟨after, insideSpan⟩ := exists_inside_of_find found
    rcases isContent with rfl | ⟨name, called⟩
    · exact insideSpan.of_head? nofun
    · rcases Operation.eq_of_call called with rfl | ⟨before, absent, whole⟩
      · exact .nil []
      · have trimmed := insideSpan.trim
        rw [whole] at trimmed
        exact trimmed.of_append_left absent
  have insides : ∀ piece ∈ Arguments.pieces ',' content.length .start content,
      Inside piece [] :=
    inside.of_mem_pieces rfl rfl (Arguments.Unquoted.start_iff.2 fun _ member =>
      unquoted _ (List.mem_map_of_mem member))
  intro argument member
  obtain ⟨piece, isPiece, rfl⟩ := List.mem_map.1 member
  have settled := (insides piece isPiece).trim.settled
  exact ⟨settled.not_unclosed, settled⟩

/-- Single braces beside double ones and around a comma are no exception. -/
theorem arguments_settled_of_braces :
    let inner := "CALC: \x7b\x7bMAX:\x7b1,2\x7d\x7d\x7d , \x7dx\x7b ".toList
    let text := "a \x7b\x7b".toList ++ inner ++ "\x7d\x7d\x7d b \x7b\x7b".toList
    let content := " \x7b\x7bMAX:\x7b1,2\x7d\x7d\x7d , \x7dx\x7b".toList
    let arguments := ["\x7b\x7bMAX:\x7b1,2\x7d\x7d\x7d".toList, "\x7dx\x7b".toList]
    find text = .ok (some ⟨"a ".toList, inner, "\x7d b \x7b\x7b".toList⟩) ∧
      Operation.ofInner inner = .ok (.call "CALC" content) ∧
      Arguments.ofContent content = arguments ∧
      (∀ argument ∈ arguments, ∀ c ∈ argument.head?, Quoted.isQuote c = false) ∧
      ∀ argument ∈ arguments, ¬ Unclosed argument ∧ Settled argument := by
  intro inner text content arguments
  have found : find text = .ok (some ⟨"a ".toList, inner, "\x7d b \x7b\x7b".toList⟩) := by
    decide +kernel
  have called : Operation.ofInner inner = .ok (.call "CALC" content) := by decide +kernel
  have written : Arguments.ofContent content = arguments := by decide +kernel
  have unquoted : ∀ argument ∈ arguments, ∀ c ∈ argument.head?, Quoted.isQuote c = false := by
    intro argument member c first
    rcases List.mem_pair.1 member with rfl | rfl <;> cases first <;> rfl
  have settled := arguments_settled found (Or.inr ⟨_, called⟩) (written ▸ unquoted)
  exact ⟨found, called, written, unquoted, written ▸ settled⟩

end Span
end CharacterSheet
