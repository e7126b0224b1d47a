import CharacterSheet.Markup.Tag
import CharacterSheet.Proofs.Success
import CharacterSheet.Proofs.Text.Search

/-!
# How markup is cut

Cutting markup gives pieces that make up the markup again and are laid out well:
every mark would be read as the same mark wherever it stood, no mark begins within
a text, and no text follows a text. The other way round, pieces that are laid out
well are what their markup is cut into (`pieces_eq_ok_iff`). So what is true of the
pieces of a markup can be shown without the reader.
-/

namespace CharacterSheet
namespace Markup

/-- A mark that is read as such whatever follows it. -/
def IsMark (mark : Text) : Prop :=
  ∃ inside, mark = '<' :: inside ∧ startsMark inside = true ∧
    ∀ offset more, readMark offset (inside ++ more) = .ok (mark, more)

/-- A text in which no mark begins. -/
def Unmarked (text : Text) : Prop :=
  ∀ c, startsMark [c] = true → ¬ ['<', c] <:+: text

/-- Whether no text leads the pieces. -/
def LeadsWithMark : List Piece → Prop
  | .text _ :: _ => False
  | _ => True

/-- Pieces as a reader lays them out. -/
inductive Laid : List Piece → Prop
  | nil : Laid []
  | mark
      {mark : Text}
      {pieces : List Piece}
      (isMark : IsMark mark)
      (rest : Laid pieces) :
      Laid (.mark mark :: pieces)
  | text
      {text : Text}
      {pieces : List Piece}
      (proper : text ≠ [])
      (unmarked : Unmarked text)
      (apart : LeadsWithMark pieces)
      (rest : Laid pieces) :
      Laid (.text text :: pieces)

/-- The markup that pieces make up. -/
def contents (pieces : List Piece) : Text := pieces.flatMap Piece.content

@[simp] theorem contents_nil : contents [] = [] := rfl

@[simp] theorem contents_cons (piece : Piece) (pieces : List Piece) :
    contents (piece :: pieces) = piece.content ++ contents pieces := rfl

/-- Only the first character decides whether a mark starts. -/
theorem startsMark_append
    {text : Text}
    (proper : text ≠ [])
    (more : Text) :
    startsMark (text ++ more) = startsMark text := by
  cases text with
  | nil => exact absurd rfl proper
  | cons c text => rfl

/-- A tag that was read is read again whatever follows it. -/
theorem readTag?_eq_some
    {quote? : Option Char}
    {text tag rest : Text}
    (found : readTag? quote? text = some (tag, rest)) :
    text = tag ++ rest ∧ '>' ∈ tag ∧
      ∀ more, readTag? quote? (tag ++ more) = some (tag, more) := by
  induction text generalizing quote? tag with
  | nil => cases found
  | cons c text inductionHypothesis =>
      unfold readTag? at found
      dsimp only at found
      split at found
      · next closes =>
          cases found
          obtain ⟨unquoted, isCloser⟩ := Bool.and_eq_true_iff.1 closes
          obtain rfl := Option.isNone_iff_eq_none.1 unquoted
          obtain rfl := eq_of_beq isCloser
          exact ⟨rfl, List.mem_singleton_self _, fun _ => rfl⟩
      · next goesOn =>
          split at found
          · cases found
          · next next? same =>
              obtain ⟨⟨inside, left⟩, inner, parts⟩ := Option.map_eq_some_iff.1 found
              cases parts
              obtain ⟨whole, closed, again⟩ := inductionHypothesis inner
              refine ⟨by rw [whole]; rfl, List.mem_cons_of_mem c closed, ?_⟩
              intro more
              rw [List.cons_append]
              unfold readTag?
              simp only [goesOn, same, again more]
              rfl

/-- A comment that was read is read again whatever follows it. -/
theorem readComment?_eq_some
    {text comment rest : Text}
    (found : readComment? text = some (comment, rest)) :
    text = comment ++ rest ∧ 3 ≤ comment.length ∧
      ∀ more, readComment? (comment ++ more) = some (comment, more) := by
  obtain ⟨⟨inside, left⟩, cut, parts⟩ := Option.map_eq_some_iff.1 found
  cases parts
  have proper : "-->".toList ≠ [] := List.cons_ne_nil _ _
  obtain ⟨whole, first⟩ := (Text.cut?_eq_some_iff proper).1 cut
  refine ⟨whole, by simp, ?_⟩
  intro more
  have again : Text.cut? "-->".toList (inside ++ "-->".toList ++ more) = some (inside, more) :=
    (Text.cut?_eq_some_iff proper).2 ⟨rfl, first⟩
  exact Option.map_eq_some_iff.2 ⟨(inside, more), again, rfl⟩

/-- What is read as a mark is a mark. -/
theorem isMark_of_readMark
    {offset : Nat}
    {text mark rest : Text}
    (starts : startsMark text = true)
    (found : readMark offset text = .ok (mark, rest)) :
    '<' :: text = mark ++ rest ∧ IsMark mark := by
  unfold readMark at found
  cases opening : Text.after? "!--".toList text with
  | some comment =>
      obtain rfl := Text.after?_eq_some.1 opening
      simp only [opening] at found
      cases read : readComment? (("!--".toList ++ comment).drop 1) with
      | none =>
          simp only [read] at found
          cases found
      | some parts =>
          obtain ⟨inner, left⟩ := parts
          simp only [read] at found
          cases found
          obtain ⟨whole, long, again⟩ := readComment?_eq_some read
          obtain ⟨tail, rfl⟩ : ∃ tail, inner = '-' :: '-' :: tail := by
            match inner, long with
            | c :: d :: tail, _ =>
                cases whole
                exact ⟨tail, rfl⟩
          refine ⟨congrArg ('<' :: '!' :: ·) whole, _, rfl, rfl, ?_⟩
          intro offset more
          unfold readMark
          have reopened : Text.after? "!--".toList
              ('!' :: '-' :: '-' :: tail ++ more) = some (tail ++ more) :=
            Text.after?_eq_some.2 rfl
          rw [reopened]
          have reread : readComment? (('!' :: '-' :: '-' :: tail ++ more).drop 1) =
              some ('-' :: '-' :: tail, more) := again more
          rw [reread]
  | none =>
      simp only [opening] at found
      cases read : readTag? none text with
      | none => simp [read] at found
      | some parts =>
          obtain ⟨tag, left⟩ := parts
          simp only [read] at found
          cases found
          obtain ⟨rfl, closed, again⟩ := readTag?_eq_some read
          refine ⟨rfl, tag, rfl, ?_, ?_⟩
          · rwa [startsMark_append (List.ne_nil_of_mem closed)] at starts
          · intro offset more
            -- a tag too short to tell holds a `>`, which no comment opener does
            have unopened : Text.after? "!--".toList (tag ++ more) = none := by
              rw [Text.after?_eq_none_iff] at opening ⊢
              intro opens
              rcases List.prefix_or_prefix_of_prefix opens (List.prefix_append tag more) with
                inTag | short
              · exact opening (inTag.trans (List.prefix_append tag rest))
              · have closer : '>' ∈ "!--".toList := short.subset closed
                exact absurd closer (by decide)
            unfold readMark
            rw [unopened]
            simp only [again more]

/-- A mark cannot start at a mark, and not where the markup ends. -/
theorem startsMark_contents
    {pieces : List Piece}
    (laid : Laid pieces)
    (leads : LeadsWithMark pieces) :
    startsMark (contents pieces) = false := by
  cases laid with
  | nil => rfl
  | mark isMark rest =>
      obtain ⟨inside, rfl, -⟩ := isMark
      rfl
  | text => exact leads.elim

/-- A character that starts no mark leads the pieces or the text that leads them. -/
theorem laid_consText
    {c : Char}
    {pieces : List Piece}
    (laid : Laid pieces)
    (plain : ¬ (c = '<' ∧ startsMark (contents pieces) = true)) :
    contents (consText c pieces) = c :: contents pieces ∧ Laid (consText c pieces) := by
  have single : Unmarked [c] := by
    intro d _ occurs
    exact absurd occurs.length_le (by simp)
  cases laid with
  | nil => exact ⟨rfl, .text (List.cons_ne_nil c []) single trivial .nil⟩
  | mark isMark rest =>
      exact ⟨rfl, .text (List.cons_ne_nil c []) single trivial (.mark isMark rest)⟩
  | @text text pieces proper unmarked apart rest =>
      refine ⟨rfl, .text (List.cons_ne_nil c text) ?_ apart rest⟩
      intro d starts occurs
      rcases List.infix_cons_iff.1 occurs with here | later
      · obtain ⟨rfl, next⟩ := List.cons_prefix_cons.1 here
        obtain ⟨more, rfl⟩ := next
        exact plain ⟨rfl, starts⟩
      · exact unmarked d starts later

/-- Where a mark starts it is read, and then what follows it. -/
theorem piecesFrom_of_mark
    {offset fuel : Nat}
    {html : Text}
    {pieces : List Piece}
    (starts : startsMark html = true)
    (cut : piecesFrom offset (fuel + 1) ('<' :: html) = .ok pieces) :
    ∃ mark rest following,
      readMark offset html = .ok (mark, rest) ∧
      piecesFrom (offset + Text.bytes mark) fuel rest = .ok following ∧
      pieces = .mark mark :: following := by
  unfold piecesFrom at cut
  rw [if_pos ⟨rfl, starts⟩] at cut
  obtain ⟨⟨mark, rest⟩, read, cut⟩ := bind_eq_ok_iff.1 cut
  obtain ⟨following, others, joined⟩ := bind_eq_ok_iff.1 cut
  cases joined
  exact ⟨mark, rest, following, read, others, rfl⟩

/-- Where no mark starts a character is read, and then what follows it. -/
theorem piecesFrom_of_plain
    {offset fuel : Nat}
    {c : Char}
    {html : Text}
    {pieces : List Piece}
    (plain : ¬ (c = '<' ∧ startsMark html = true))
    (cut : piecesFrom offset (fuel + 1) (c :: html) = .ok pieces) :
    ∃ following,
      piecesFrom (offset + c.utf8Size) fuel html = .ok following ∧
      pieces = consText c following := by
  unfold piecesFrom at cut
  rw [if_neg plain] at cut
  obtain ⟨following, others, joined⟩ := bind_eq_ok_iff.1 cut
  cases joined
  exact ⟨following, others, rfl⟩

/-- The pieces that markup is cut into make it up and are laid out well. -/
theorem laid_of_piecesFrom
    {offset fuel : Nat}
    {html : Text}
    {pieces : List Piece}
    (enough : html.length ≤ fuel)
    (cut : piecesFrom offset fuel html = .ok pieces) :
    html = contents pieces ∧ Laid pieces := by
  induction fuel generalizing offset html pieces with
  | zero =>
      obtain rfl := List.length_eq_zero_iff.1 (Nat.le_zero.1 enough)
      cases cut
      exact ⟨rfl, .nil⟩
  | succ fuel inductionHypothesis =>
      cases html with
      | nil =>
          cases cut
          exact ⟨rfl, .nil⟩
      | cons c html =>
          by_cases starts : c = '<' ∧ startsMark html = true
          · obtain ⟨rfl, starts⟩ := starts
            obtain ⟨mark, rest, following, read, others, rfl⟩ := piecesFrom_of_mark starts cut
            obtain ⟨whole, isMark⟩ := isMark_of_readMark starts read
            -- a mark has at least its bracket, so what follows it is shorter
            have left : rest.length ≤ fuel := by
              obtain ⟨inside, rfl, -⟩ := isMark
              have lengths := congrArg List.length whole
              simp only [List.length_cons, List.length_append] at lengths enough
              omega
            obtain ⟨rfl, laid⟩ := inductionHypothesis left others
            exact ⟨whole, .mark isMark laid⟩
          · obtain ⟨following, others, rfl⟩ := piecesFrom_of_plain starts cut
            obtain ⟨rfl, laid⟩ := inductionHypothesis (Nat.le_of_succ_le_succ enough) others
            obtain ⟨whole, longer⟩ := laid_consText laid starts
            exact ⟨whole.symm, longer⟩

/-- A text in which no mark begins is read up to the pieces behind it. -/
theorem piecesFrom_text
    {text : Text}
    {pieces : List Piece}
    (proper : text ≠ [])
    (unmarked : Unmarked text)
    (apart : LeadsWithMark pieces)
    (laid : Laid pieces)
    (following : ∀ offset fuel, (contents pieces).length ≤ fuel →
      piecesFrom offset fuel (contents pieces) = .ok pieces)
    {offset fuel : Nat}
    (enough : (text ++ contents pieces).length ≤ fuel) :
    piecesFrom offset fuel (text ++ contents pieces) = .ok (.text text :: pieces) := by
  induction text generalizing offset fuel with
  | nil => exact absurd rfl proper
  | cons c text inductionHypothesis =>
      cases fuel with
      | zero => exact absurd enough (by simp)
      | succ fuel =>
          have left : (text ++ contents pieces).length ≤ fuel := Nat.le_of_succ_le_succ enough
          rw [List.cons_append]
          unfold piecesFrom
          cases text with
          | nil =>
              have quiet : ¬ (c = '<' ∧ startsMark ([] ++ contents pieces) = true) := by
                rw [List.nil_append, startsMark_contents laid apart]
                simp
              rw [if_neg quiet, List.nil_append, following _ fuel left]
              cases pieces with
              | nil => rfl
              | cons piece pieces =>
                  cases piece with
                  | text characters => exact apart.elim
                  | mark characters => rfl
          | cons d text =>
              have quiet : ¬ (c = '<' ∧ startsMark (d :: text ++ contents pieces) = true) := by
                rintro ⟨rfl, starts⟩
                exact unmarked d starts (List.prefix_append ['<', d] text).isInfix
              have rest : Unmarked (d :: text) := fun e starts occurs =>
                unmarked e starts (occurs.trans (List.suffix_cons c _).isInfix)
              rw [if_neg quiet, inductionHypothesis (List.cons_ne_nil d text) rest left]
              rfl

/-- Pieces that are laid out well are what their markup is cut into. -/
theorem piecesFrom_contents
    {pieces : List Piece}
    (laid : Laid pieces)
    {offset fuel : Nat}
    (enough : (contents pieces).length ≤ fuel) :
    piecesFrom offset fuel (contents pieces) = .ok pieces := by
  induction laid generalizing offset fuel with
  | nil => cases fuel <;> rfl
  | @mark mark pieces isMark rest inductionHypothesis =>
      obtain ⟨inside, rfl, starts, read⟩ := isMark
      cases fuel with
      | zero => exact absurd enough (by simp [Piece.content])
      | succ fuel =>
          have left : (contents pieces).length ≤ fuel := by
            simp only [contents_cons, Piece.content, List.length_append, List.length_cons]
              at enough
            omega
          have proper : inside ≠ [] := by
            rintro rfl
            cases starts
          have begins : startsMark (inside ++ contents pieces) = true := by
            rw [startsMark_append proper, starts]
          rw [contents_cons, Piece.content, List.cons_append]
          unfold piecesFrom
          rw [if_pos ⟨rfl, begins⟩, read]
          simp only [bind, Except.bind, inductionHypothesis left]
          rfl
  | text proper unmarked apart rest inductionHypothesis =>
      exact piecesFrom_text proper unmarked apart rest
        (fun _ _ enough => inductionHypothesis enough) enough

/-- Markup is cut into pieces exactly if they make it up and are laid out well. -/
theorem pieces_eq_ok_iff {html : Text} {cut : List Piece} :
    pieces html = .ok cut ↔ html = contents cut ∧ Laid cut := by
  constructor
  · exact laid_of_piecesFrom (Nat.le_refl _)
  · rintro ⟨rfl, laid⟩
    exact piecesFrom_contents laid (Nat.le_refl _)

end Markup
end CharacterSheet
