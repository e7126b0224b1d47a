import CharacterSheet.Markup.Nesting
import CharacterSheet.Proofs.Markup.Tag

/-!
# The marks of markup

Whether markup is valid depends on its marks alone: they have to nest, and an
allow-list restricts their names (`validate_some_eq_ok_iff`). `Marked` says which marks a
markup has without regard to the texts between them. So markup can be cut and joined
between its marks (`Marked.append`, `Marked.exists_of_append`), and markup that nests
on its own can stand anywhere (`Nests.balanced`).
-/

namespace CharacterSheet
namespace Markup

/-- Markup with its marks in order: what stands between them starts none. -/
inductive Marked : Text → List Text → Prop
  | nil : Marked [] []
  | mark
      {mark rest : Text}
      {marks : List Text}
      (isMark : IsMark mark)
      (others : Marked rest marks) :
      Marked (mark ++ rest) (mark :: marks)
  | plain
      {c : Char}
      {rest : Text}
      {marks : List Text}
      (starts : ¬ (c = '<' ∧ startsMark rest = true))
      (others : Marked rest marks) :
      Marked (c :: rest) marks

/-- The characters of a mark. -/
def Piece.mark? : Piece → Option Text
  | .text _ => none
  | .mark characters => some characters

/-- The tags, comments and declarations of markup in order. -/
def marks (html : Text) : Except MarkupError (List Text) :=
  (fun cut => cut.filterMap Piece.mark?) <$> pieces html

/-- A character in front of the leading text adds no mark. -/
@[simp] theorem filterMap_mark?_consText (c : Char) (pieces : List Piece) :
    (consText c pieces).filterMap Piece.mark? = pieces.filterMap Piece.mark? := by
  cases pieces with
  | nil => rfl
  | cons piece pieces => cases piece <;> rfl

/-- The tags of pieces are those of their marks. -/
theorem tags_eq_filterMap (pieces : List Piece) :
    tags pieces = (pieces.filterMap Piece.mark?).filterMap Tag.ofMark? := by
  rw [tags, List.filterMap_filterMap]
  congr 1
  funext piece
  cases piece <;> rfl

/-- A check looks at the marks alone. -/
theorem validate_eq_marks (allowed? : Option (List String)) (html : Text) :
    validate allowed? html =
      (marks html).bind fun marks => checkTags allowed? [] (marks.filterMap Tag.ofMark?) := by
  unfold validate marks
  cases pieces html with
  | error cause => rfl
  | ok cut =>
      change checkTags allowed? [] (tags cut) = checkTags allowed? [] _
      rw [tags_eq_filterMap]

/-- A tag that was read ends with its bracket. -/
theorem getLast?_of_readTag?
    {quote? : Option Char}
    {text tag rest : Text}
    (found : readTag? quote? text = some (tag, rest)) :
    tag.getLast? = some '>' := by
  induction text generalizing quote? tag with
  | nil => cases found
  | cons c text inductionHypothesis =>
      unfold readTag? at found
      dsimp only at found
      split at found
      · cases found
        rfl
      · split at found
        · cases found
        · obtain ⟨⟨inside, left⟩, inner, parts⟩ := Option.map_eq_some_iff.1 found
          cases parts
          rw [List.getLast?_cons, inductionHypothesis inner]
          rfl

/-- A mark ends with a bracket. -/
theorem IsMark.getLast?
    {mark : Text}
    (isMark : IsMark mark) :
    mark.getLast? = some '>' := by
  obtain ⟨inside, same, -, read⟩ := isMark
  have found := read 0 []
  unfold readMark at found
  split at found
  · split at found
    · next inner rest comment =>
        obtain ⟨⟨before, left⟩, -, parts⟩ := Option.map_eq_some_iff.1 comment
        cases parts
        cases found
        change ('<' :: '!' :: before ++ "-->".toList).getLast? = some '>'
        rw [List.getLast?_append]
        rfl
    · cases found
  · split at found
    · next tag =>
        cases found
        rw [List.getLast?_cons, getLast?_of_readTag? tag]
        rfl
    · cases found

/-- What is cut into pieces has the marks of the pieces. -/
theorem marked_of_piecesFrom
    {offset fuel : Nat}
    {html : Text}
    {pieces : List Piece}
    (enough : html.length ≤ fuel)
    (cut : piecesFrom offset fuel html = .ok pieces) :
    Marked html (pieces.filterMap Piece.mark?) := by
  induction fuel generalizing offset html pieces with
  | zero =>
      obtain rfl := List.length_eq_zero_iff.1 (Nat.le_zero.1 enough)
      cases cut
      exact .nil
  | succ fuel inductionHypothesis =>
      cases html with
      | nil =>
          cases cut
          exact .nil
      | cons c html =>
          by_cases starts : c = '<' ∧ startsMark html = true
          · obtain ⟨rfl, starts⟩ := starts
            obtain ⟨mark, rest, following, read, others, rfl⟩ := piecesFrom_of_mark starts cut
            obtain ⟨whole, isMark⟩ := isMark_of_readMark starts read
            have left : rest.length ≤ fuel := by
              obtain ⟨inside, rfl, -⟩ := isMark
              have lengths := congrArg List.length whole
              simp only [List.length_cons, List.length_append] at lengths enough
              omega
            rw [whole]
            exact .mark isMark (inductionHypothesis left others)
          · obtain ⟨following, others, rfl⟩ := piecesFrom_of_plain starts cut
            rw [filterMap_mark?_consText]
            exact .plain starts (inductionHypothesis (Nat.le_of_succ_le_succ enough) others)

namespace Marked

/-- Marked markup is cut into pieces with its marks. -/
theorem exists_piecesFrom
    {html : Text}
    {marks : List Text}
    (marked : Marked html marks)
    (offset : Nat)
    {fuel : Nat}
    (enough : html.length ≤ fuel) :
    ∃ pieces, piecesFrom offset fuel html = .ok pieces ∧
      pieces.filterMap Piece.mark? = marks := by
  induction marked generalizing offset fuel with
  | nil => exact ⟨[], by cases fuel <;> rfl, rfl⟩
  | @mark mark rest marks isMark others inductionHypothesis =>
      obtain ⟨inside, rfl, starts, read⟩ := isMark
      cases fuel with
      | zero => exact absurd enough (by simp)
      | succ fuel =>
          have left : rest.length ≤ fuel := by
            simp only [List.length_append, List.length_cons] at enough
            omega
          obtain ⟨pieces, following, same⟩ :=
            inductionHypothesis (offset + Text.bytes ('<' :: inside)) left
          have proper : inside ≠ [] := by
            rintro rfl
            cases starts
          have begins : startsMark (inside ++ rest) = true := by
            rw [startsMark_append proper, starts]
          refine ⟨.mark ('<' :: inside) :: pieces, ?_, congrArg _ same⟩
          rw [List.cons_append]
          unfold piecesFrom
          rw [if_pos ⟨rfl, begins⟩, read]
          simp only [bind, Except.bind, following]
          rfl
  | @plain c rest marks starts others inductionHypothesis =>
      cases fuel with
      | zero => exact absurd enough (by simp)
      | succ fuel =>
          obtain ⟨pieces, following, rfl⟩ :=
            inductionHypothesis (offset + c.utf8Size) (Nat.le_of_succ_le_succ enough)
          refine ⟨consText c pieces, ?_, filterMap_mark?_consText c pieces⟩
          unfold piecesFrom
          rw [if_neg starts, following]
          rfl

end Marked

/-- The marks of markup are those of its pieces. -/
theorem marked_iff
    {html : Text}
    {marks : List Text} :
    Marked html marks ↔
      ∃ cut, pieces html = .ok cut ∧ cut.filterMap Piece.mark? = marks := by
  constructor
  · exact fun marked => marked.exists_piecesFrom 0 (Nat.le_refl _)
  · rintro ⟨cut, whole, rfl⟩
    exact marked_of_piecesFrom (Nat.le_refl _) whole

namespace Marked

/-- Markup has its marks in one way. -/
theorem unique
    {html : Text}
    {marks other : List Text}
    (marked : Marked html marks)
    (also : Marked html other) :
    marks = other := by
  obtain ⟨cut, whole, rfl⟩ := marked_iff.1 marked
  obtain ⟨_, again, rfl⟩ := marked_iff.1 also
  cases whole.symm.trans again
  rfl

/-- Markup can be joined where no mark starts across the seam. -/
theorem append
    {left right : Text}
    {marks more : List Text}
    (marked : Marked left marks)
    (further : Marked right more)
    (seam : left.getLast? = some '<' → startsMark right = false) :
    Marked (left ++ right) (marks ++ more) := by
  induction marked with
  | nil => exact further
  | @mark mark rest marks isMark others inductionHypothesis =>
      rw [List.append_assoc]
      refine .mark isMark (inductionHypothesis fun ends => seam ?_)
      rw [List.getLast?_append, ends, Option.some_or]
  | @plain c rest marks starts others inductionHypothesis =>
      cases rest with
      | nil =>
          refine .plain ?_ (inductionHypothesis (by simp))
          rintro ⟨rfl, begins⟩
          change startsMark right = true at begins
          rw [seam rfl] at begins
          cases begins
      | cons d rest => exact .plain starts (inductionHypothesis seam)

/-- Characters that start no mark can be left out in front. -/
theorem of_plain_append
    {plain right : Text}
    {marks : List Text}
    (unopened : '<' ∉ plain)
    (marked : Marked (plain ++ right) marks) :
    Marked right marks := by
  induction plain with
  | nil => exact marked
  | cons c plain inductionHypothesis =>
      rw [List.mem_cons, not_or] at unopened
      generalize same : c :: plain ++ right = whole at marked
      cases marked with
      | nil => cases same
      | mark isMark others =>
          obtain ⟨inside, rfl, -⟩ := isMark
          exact absurd (List.cons.inj same).1.symm unopened.1
      | plain starts others =>
          obtain ⟨rfl, rfl⟩ := List.cons.inj same
          exact inductionHypothesis unopened.2 others

/-- Markup can be cut around a text without brackets that stands in no mark. -/
theorem exists_of_append
    {left middle right : Text}
    {marks : List Text}
    (proper : middle ≠ [])
    (unopened : '<' ∉ middle)
    (unclosed : '>' ∉ middle)
    (apart : ∀ mark ∈ marks, ¬ middle <:+: mark)
    (marked : Marked (left ++ middle ++ right) marks) :
    ∃ before behind,
      Marked left before ∧ Marked right behind ∧ marks = before ++ behind := by
  generalize same : left ++ middle ++ right = whole at marked
  induction marked generalizing left with
  | nil => simp [proper] at same
  | @mark mark rest marks isMark others inductionHypothesis =>
      obtain ⟨outside, further⟩ := List.forall_mem_cons.1 apart
      rw [List.append_assoc] at same
      rcases List.append_eq_append_iff.1 same with ⟨tail, rfl, split⟩ | ⟨tail, rfl, split⟩
      · cases tail with
        | nil =>
            obtain ⟨before, behind, nothing, later, rfl⟩ :=
              @inductionHypothesis [] further split
            refine ⟨(left ++ []) :: before, behind, ?_, later, rfl⟩
            simpa using Marked.mark isMark nothing
        | cons c tail =>
            -- the mark ends within the middle or behind it
            have closer : '>' ∈ c :: tail := by
              have ends := isMark.getLast?
              rw [List.getLast?_append, List.getLast?_eq_some_getLast (List.cons_ne_nil c tail),
                Option.some_or] at ends
              exact Option.some.inj ends ▸ List.getLast_mem (List.cons_ne_nil c tail)
            rcases List.append_eq_append_iff.1 split with ⟨more, whole, -⟩ | ⟨more, rfl, -⟩
            · exact absurd (List.infix_append' left middle more) (whole ▸ outside)
            · exact absurd (List.mem_append_left more closer) unclosed
      · obtain ⟨before, behind, earlier, later, rfl⟩ :=
          inductionHypothesis further (by rw [List.append_assoc]; exact split.symm)
        exact ⟨mark :: before, behind, .mark isMark earlier, later, rfl⟩
  | @plain c rest marks starts others inductionHypothesis =>
      cases left with
      | nil =>
          cases middle with
          | nil => exact absurd rfl proper
          | cons d middle =>
              obtain ⟨rfl, rfl⟩ := List.cons.inj same
              rw [List.mem_cons, not_or] at unopened
              exact ⟨[], marks, .nil, others.of_plain_append unopened.2, rfl⟩
      | cons d left =>
          obtain ⟨rfl, rfl⟩ := List.cons.inj same
          obtain ⟨before, behind, earlier, later, rfl⟩ := inductionHypothesis apart rfl
          refine ⟨before, behind, .plain ?_ earlier, later, rfl⟩
          cases left with
          | nil => simp [startsMark]
          | cons e left => exact starts

end Marked

/-- Following marks leads from some open elements to others. -/
def Nests (opened : List String) (marks : List Text) (left : List String) : Prop :=
  (marks.filterMap Tag.ofMark?).foldlM (nest none) opened = .ok left

namespace Nests

variable {opened left : List String} {marks more : List Text}

theorem append_iff :
    Nests opened (marks ++ more) left ↔
      ∃ between, Nests opened marks between ∧ Nests between more left := by
  unfold Nests
  rw [List.filterMap_append, List.foldlM_append, bind_eq_ok_iff]

/-- A tag does not look below the elements that it needs. -/
theorem nest_append
    {tag : Tag}
    (nested : nest none opened tag = .ok left)
    (below : List String) :
    nest none (opened ++ below) tag = .ok (left ++ below) := by
  cases tag with
  | selfClosing name =>
      cases nested
      rfl
  | opening name =>
      cases nested
      by_cases void : name ∈ voidElements <;> simp [nest, void]
  | closing name =>
      by_cases void : name ∈ voidElements
      · simp [nest, void] at nested
      · cases opened with
        | nil => simp [nest, void] at nested
        | cons innermost opened =>
            by_cases same : innermost = name
            · obtain rfl : opened = left := by simpa [nest, void, same] using nested
              simp [nest, void, same]
            · simp [nest, void, same] at nested

/-- Marks do not look below the elements that they need. -/
theorem append_below
    (nests : Nests opened marks left)
    (below : List String) :
    Nests (opened ++ below) marks (left ++ below) := by
  unfold Nests at nests ⊢
  generalize marks.filterMap Tag.ofMark? = tags at nests ⊢
  induction tags generalizing opened with
  | nil =>
      cases nests
      rfl
  | cons tag tags inductionHypothesis =>
      rw [List.foldlM_cons, bind_eq_ok_iff] at nests ⊢
      obtain ⟨between, first, rest⟩ := nests
      exact ⟨between ++ below, nest_append first below, inductionHypothesis rest⟩

/-- Marks that nest on their own nest wherever they stand. -/
theorem balanced
    (nests : Nests [] marks [])
    (opened : List String) :
    Nests opened marks opened :=
  nests.append_below opened

end Nests

/-- The element of a mark, if it has one, is on a list. -/
def Permitted (names : List String) (mark : Text) : Prop :=
  ∀ tag ∈ Tag.ofMark? mark, tag.name ∈ names

theorem checkTags_eq_ok_iff
    {allowed? : Option (List String)}
    {opened : List String}
    {tags : List Tag} :
    checkTags allowed? opened tags = .ok () ↔
      tags.foldlM (nest allowed?) opened = .ok [] := by
  induction tags generalizing opened with
  | nil => cases opened <;> simp [checkTags, pure, Except.pure]
  | cons tag tags inductionHypothesis =>
      rw [checkTags, List.foldlM_cons, bind_eq_ok_iff, bind_eq_ok_iff]
      exact exists_congr fun between => and_congr_right fun _ => inductionHypothesis

theorem nest_some_eq_ok_iff
    {names opened left : List String}
    {tag : Tag} :
    nest (some names) opened tag = .ok left ↔
      tag.name ∈ names ∧ nest none opened tag = .ok left := by
  by_cases allowed : tag.name ∈ names <;> simp [nest, allowed]

/-- An allow-list adds nothing to nesting but that all names are on it. -/
theorem foldlM_nest_some_eq_ok_iff
    {names opened left : List String}
    {tags : List Tag} :
    tags.foldlM (nest (some names)) opened = .ok left ↔
      (∀ tag ∈ tags, tag.name ∈ names) ∧
        tags.foldlM (nest none) opened = .ok left := by
  induction tags generalizing opened with
  | nil => simp
  | cons tag tags inductionHypothesis =>
      simp only [List.foldlM_cons, bind_eq_ok_iff, nest_some_eq_ok_iff, inductionHypothesis,
        List.forall_mem_cons]
      constructor
      · rintro ⟨between, ⟨first, nested⟩, others, rest⟩
        exact ⟨⟨first, others⟩, between, nested, rest⟩
      · rintro ⟨⟨first, others⟩, between, nested, rest⟩
        exact ⟨between, ⟨first, nested⟩, others, rest⟩

/-- Markup is valid exactly if its marks nest. -/
theorem validate_none_eq_ok_iff {html : Text} :
    validate none html = .ok () ↔ ∃ marks, Marked html marks ∧ Nests [] marks [] := by
  simp only [validate, bind_eq_ok_iff, checkTags_eq_ok_iff, tags_eq_filterMap, marked_iff, Nests]
  constructor
  · rintro ⟨cut, whole, nested⟩
    exact ⟨_, ⟨cut, whole, rfl⟩, nested⟩
  · rintro ⟨_, ⟨cut, whole, rfl⟩, nested⟩
    exact ⟨cut, whole, nested⟩

/-- An allow-list adds to that only that its elements are permitted. -/
theorem validate_some_eq_ok_iff
    {names : List String}
    {html : Text} :
    validate (some names) html = .ok () ↔
      ∃ marks, Marked html marks ∧ (∀ mark ∈ marks, Permitted names mark) ∧
        Nests [] marks [] := by
  have permitted {marks : List Text} :
      (∀ tag ∈ marks.filterMap Tag.ofMark?, tag.name ∈ names) ↔
        ∀ mark ∈ marks, Permitted names mark := by
    simp only [List.mem_filterMap, Permitted, Option.mem_def]
    exact ⟨fun all mark member tag same => all tag ⟨mark, member, same⟩,
      fun all tag ⟨mark, member, same⟩ => all mark member tag same⟩
  simp only [validate, bind_eq_ok_iff, checkTags_eq_ok_iff, tags_eq_filterMap, marked_iff, Nests,
    foldlM_nest_some_eq_ok_iff, permitted]
  constructor
  · rintro ⟨cut, whole, nested⟩
    exact ⟨_, ⟨cut, whole, rfl⟩, nested⟩
  · rintro ⟨_, ⟨cut, whole, rfl⟩, nested⟩
    exact ⟨cut, whole, nested⟩

end Markup
end CharacterSheet
