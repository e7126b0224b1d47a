import CharacterSheet.Proofs.Notation.Pieces

/-!
# Limited splits

Nothing of a content is lost when it is cut into pieces (`Arguments.join_pieces`). Behind a
separator the next piece is read as if the content began there (`Arguments.wholeOrCut`), and blanks
around a content do not matter (`Arguments.split_trim`). So where a limit ends the cutting, the last
argument holds the text of all further ones, and cutting it gives them back
(`Arguments.splitAtMost_refines_split`).
-/

namespace CharacterSheet
namespace Arguments

variable {separator : Char}

theorem consFirst_ne_nil (c : Char) (pieces : List Text) : consFirst c pieces ≠ [] := by
  cases pieces <;> exact List.cons_ne_nil _ _

theorem length_consFirst
    {pieces : List Text}
    (proper : pieces ≠ [])
    (c : Char) :
    (consFirst c pieces).length = pieces.length := by
  cases pieces with
  | nil => exact absurd rfl proper
  | cons piece pieces => rfl

theorem join_consFirst (c : Char) (pieces : List Text) :
    Text.join [separator] (consFirst c pieces) = c :: Text.join [separator] pieces := by
  match pieces with
  | [] => rfl
  | [_] => rfl
  | _ :: _ :: _ => rfl

theorem join_cons
    {pieces : List Text}
    (proper : pieces ≠ [])
    (piece : Text) :
    Text.join [separator] (piece :: pieces) =
      piece ++ separator :: Text.join [separator] pieces := by
  cases pieces with
  | nil => exact absurd rfl proper
  | cons next pieces => simp

/-- Puts a text in front of the first piece. -/
def prepend (passed : Text) (pieces : List Text) : List Text := passed.foldr consFirst pieces

@[simp] theorem prepend_cons (passed piece : Text) (pieces : List Text) :
    prepend passed (piece :: pieces) = (passed ++ piece) :: pieces := by
  induction passed with
  | nil => rfl
  | cons c passed inductionHypothesis =>
      change consFirst c (prepend passed (piece :: pieces)) = _
      rw [inductionHypothesis]
      rfl

theorem prepend_append (left right : Text) (pieces : List Text) :
    prepend (left ++ right) pieces = prepend left (prepend right pieces) :=
  List.foldr_append

theorem length_prepend
    {pieces : List Text}
    (proper : pieces ≠ [])
    (passed : Text) :
    (prepend passed pieces).length = pieces.length := by
  obtain ⟨piece, pieces, rfl⟩ := List.exists_cons_of_ne_nil proper
  rw [prepend_cons]
  rfl

section

variable (separator) (cuts : Nat) (place : Place) (content : Text)

theorem pieces_ne_nil : pieces separator cuts place content ≠ [] := by
  fun_cases pieces separator cuts place content <;>
    first | exact List.cons_ne_nil _ _ | exact consFirst_ne_nil _ _

/-- Joined by the separator, the pieces make up the content again. -/
theorem join_pieces : Text.join [separator] (pieces separator cuts place content) = content := by
  fun_induction pieces separator cuts place content with
  | case1 => rfl
  | case2 _ _ _ _ _ _ inductionHypothesis => rw [join_consFirst, inductionHypothesis]
  | case3 _ _ _ _ opens => cases opens.2
  | case4 _ _ _ _ _ _ _ inductionHypothesis =>
      rw [join_consFirst, join_consFirst, inductionHypothesis]
  | case5 _ _ _ _ _ closes => cases closes.2.2
  | case6 _ _ _ _ _ _ _ _ inductionHypothesis =>
      rw [join_consFirst, join_consFirst, inductionHypothesis]
  | case7 _ _ _ _ _ _ _ ends inductionHypothesis =>
      rw [join_cons (pieces_ne_nil _ _ _ _), inductionHypothesis, ends.2.1, List.nil_append]
  | case8 _ _ _ _ _ _ _ _ inductionHypothesis => rw [join_consFirst, inductionHypothesis]

/-- Each cut gives one more piece. -/
theorem length_pieces_le : (pieces separator cuts place content).length ≤ cuts + 1 := by
  have proper := pieces_ne_nil separator
  fun_induction pieces separator cuts place content with
  | case1 => exact Nat.succ_le_succ (Nat.zero_le _)
  | case2 _ _ _ _ _ _ inductionHypothesis => rwa [length_consFirst (proper _ _ _)]
  | case3 _ _ _ _ opens => cases opens.2
  | case4 _ _ _ _ _ _ _ inductionHypothesis =>
      rwa [length_consFirst (consFirst_ne_nil _ _), length_consFirst (proper _ _ _)]
  | case5 _ _ _ _ _ closes => cases closes.2.2
  | case6 _ _ _ _ _ _ _ _ inductionHypothesis =>
      rwa [length_consFirst (consFirst_ne_nil _ _), length_consFirst (proper _ _ _)]
  | case7 _ _ _ _ _ _ _ ends inductionHypothesis =>
      have left := ends.2.2
      rw [List.length_cons]
      omega
  | case8 _ _ _ _ _ _ _ _ inductionHypothesis => rwa [length_consFirst (proper _ _ _)]

variable {separator cuts place content}

/-- A single piece is the content. -/
theorem pieces_eq_singleton
    (single : (pieces separator cuts place content).length = 1) :
    pieces separator cuts place content = [content] := by
  obtain ⟨piece, alone⟩ := List.length_eq_one_iff.1 single
  have whole := join_pieces separator cuts place content
  rw [alone] at whole ⊢
  rw [← whole, Text.join_singleton]

variable (place content)

theorem pieces_zero : pieces separator 0 place content = [content] := by
  apply pieces_eq_singleton
  have atMost := length_pieces_le separator 0 place content
  have atLeast := List.length_pos_iff.2 (pieces_ne_nil separator 0 place content)
  omega

end

/-- A content that is one piece, or is cut first at a separator behind which the next piece starts,
however many cuts there are. -/
def WholeOrCut (separator : Char) (place : Place) (content : Text) : Prop :=
  (∀ cuts, pieces separator cuts place content = [content]) ∨
    ∃ piece rest, content = piece ++ separator :: rest ∧
      ∀ cuts, pieces separator (cuts + 1) place content =
        piece :: pieces separator cuts .start rest

/-- What is passed in front of a piece belongs to it. -/
theorem WholeOrCut.prepend
    {place next : Place}
    {content : Text}
    (passed : Text)
    (passes : ∀ cuts, pieces separator cuts place (passed ++ content) =
      Arguments.prepend passed (pieces separator cuts next content))
    (wholeOrCut : WholeOrCut separator next content) :
    WholeOrCut separator place (passed ++ content) := by
  rcases wholeOrCut with whole | ⟨piece, rest, rfl, cut⟩
  · refine Or.inl fun cuts => ?_
    rw [passes, whole, prepend_cons]
  · refine Or.inr ⟨passed ++ piece, rest, (List.append_assoc _ _ _).symm, fun cuts => ?_⟩
    rw [passes, cut, prepend_cons]

theorem wholeOrCut (separator : Char) (place : Place) (content : Text) :
    WholeOrCut separator place content := by
  -- the cuts only steer the induction: the last case looks at the separator alone
  generalize zero : 0 = cuts
  fun_induction pieces separator cuts place content with
  | case1 => exact Or.inl fun _ => by rw [pieces]
  | case2 _ _ c _ _ opened inductionHypothesis =>
      exact (inductionHypothesis zero).prepend [c] fun _ => pieces_cons_of_quoted opened
  | case3 _ _ _ _ opens => cases opens.2
  | case4 _ _ c unquoted d _ opens inductionHypothesis =>
      exact (inductionHypothesis zero).prepend [c, d] fun _ => pieces_cons_of_opens unquoted opens
  | case5 _ _ _ _ _ closes => cases closes.2.2
  | case6 _ _ c unquoted d _ notOpens closes inductionHypothesis =>
      exact (inductionHypothesis zero).prepend [c, d] fun _ =>
        pieces_cons_of_closes unquoted notOpens closes
  | case7 _ _ _ _ _ _ _ ends _ => exact absurd ends.2.2 (by omega)
  | case8 _ place c text unquoted notOpens notCloses _ inductionHypothesis =>
      by_cases ends : place.depth = 0 ∧ c = separator
      · refine Or.inr ⟨[], text, by rw [ends.2]; rfl, fun _ => ?_⟩
        exact pieces_cons_of_ends unquoted notOpens notCloses ⟨ends.1, ends.2, Nat.succ_pos _⟩
      · refine (inductionHypothesis zero).prepend [c] fun _ => ?_
        exact pieces_cons_of_goesOn unquoted notOpens notCloses fun both =>
          ends ⟨both.1, both.2.1⟩

/-- With fewer cuts the first pieces are the same, and the last one is still to be cut into the
others. -/
theorem pieces_limited (separator : Char) (cuts : Nat) (content : Text) :
    let all := pieces separator content.length .start content
    let first := min cuts (all.length - 1)
    ∃ last, pieces separator cuts .start content = all.take first ++ [last] ∧
      pieces separator last.length .start last = all.drop first := by
  -- behind its first separator a content has one cut less left
  induction cuts generalizing content with
  | zero =>
      intro all first
      have none : first = 0 := Nat.zero_min _
      rw [none]
      exact ⟨content, pieces_zero _ _, rfl⟩
  | succ cuts inductionHypothesis =>
      intro all first
      rcases wholeOrCut separator .start content with
        whole | ⟨piece, rest, rfl, cut⟩
      · have none : first = 0 := by
          simp only [first, all, whole, List.length_singleton, Nat.sub_self, Nat.min_zero]
        rw [none]
        exact ⟨content, whole _, rfl⟩
      · obtain ⟨last, taken, dropped⟩ := inductionHypothesis rest
        have enough : rest.length ≤ (piece ++ separator :: rest).length - 1 := by
          rw [List.length_append, List.length_cons]
          omega
        have others : all = piece :: pieces separator rest.length .start rest := by
          have one : (piece ++ separator :: rest).length =
              (piece ++ separator :: rest).length - 1 + 1 := by
            rw [List.length_append, List.length_cons]
            omega
          simp only [all]
          rw [one, cut, pieces_congr enough (Nat.le_refl _)]
        have proper := List.length_pos_iff.2
          (pieces_ne_nil separator rest.length .start rest)
        have more : first = min cuts
            ((pieces separator rest.length .start rest).length - 1) + 1 := by
          simp only [first, others, List.length_cons]
          omega
        refine ⟨last, ?_, ?_⟩
        · rw [cut, taken, others, more, List.take_succ_cons, List.cons_append]
        · rw [dropped, others, more, List.drop_succ_cons]

/-! ## Blanks around a content -/

theorem ne_of_isBlank
    {c d : Char}
    (blank : isBlank c = true)
    (shown : isBlank d = false) :
    c ≠ d := by
  rintro rfl
  rw [blank] at shown
  cases shown

/-- Blanks at the start of an argument change nothing about what comes next. -/
theorem Place.start_pass
    {c : Char}
    (blank : isBlank c = true) :
    Place.start.pass c = .start := by
  have notSingle : c ≠ '\'' := ne_of_isBlank blank (by decide)
  have notDouble : c ≠ '"' := ne_of_isBlank blank (by decide)
  simp [Place.pass, Place.start, blank, notSingle, notDouble]

/-- Behind blanks at the end the same brace, or none, follows. -/
theorem head?_append_blanks
    {blanks : Text}
    (blank : ∀ c ∈ blanks, isBlank c = true)
    {c : Char}
    (shown : isBlank c = false)
    (text : Text) :
    (text ++ blanks).head? = some c ↔ text.head? = some c := by
  cases text with
  | nil =>
      refine iff_of_false (fun first => ?_) nofun
      exact ne_of_isBlank (blank c (List.mem_of_head? first)) shown rfl
  | cons d text => rfl

theorem map_trim_consFirst
    {pieces : List Text}
    (proper : pieces ≠ [])
    {c : Char}
    (blank : isBlank c = true) :
    (consFirst c pieces).map Text.trim = pieces.map Text.trim := by
  cases pieces with
  | nil => exact absurd rfl proper
  | cons piece pieces =>
      rw [consFirst, List.map_cons, List.map_cons, Text.trim_cons_of_blank blank]

theorem map_trimEnd_consFirst
    {left right : List Text}
    (same : left.map Text.trimEnd = right.map Text.trimEnd)
    (c : Char) :
    (consFirst c left).map Text.trimEnd = (consFirst c right).map Text.trimEnd := by
  match left, right with
  | [], [] => rfl
  | [], _ :: _ => cases same
  | _ :: _, [] => cases same
  | first :: left, second :: right =>
      obtain ⟨firstSame, same⟩ := List.cons.inj same
      change Text.trimEnd (c :: first) :: _ = Text.trimEnd (c :: second) :: _
      rw [Text.trimEnd_cons c first, Text.trimEnd_cons c second, firstSame, same]

variable (visible : isBlank separator = false)

include visible

theorem map_trim_pieces_append_left
    {blanks : Text}
    (blank : ∀ c ∈ blanks, isBlank c = true)
    (cuts : Nat)
    (content : Text) :
    (pieces separator cuts .start (blanks ++ content)).map Text.trim =
      (pieces separator cuts .start content).map Text.trim := by
  induction blanks with
  | nil => rfl
  | cons c blanks inductionHypothesis =>
      obtain ⟨first, others⟩ := List.forall_mem_cons.1 blank
      have outside : Place.start.depth = 0 := rfl
      rw [List.cons_append, pieces_cons_of_goesOn rfl
          (fun opens => ne_of_isBlank first (by decide) opens.1)
          (fun closes => absurd closes.1 (by omega))
          (fun ends => ne_of_isBlank first visible ends.2.1),
        Place.start_pass first, map_trim_consFirst (pieces_ne_nil _ _ _ _) first,
        inductionHypothesis others]

/-- Blanks behind a content only lengthen the last piece. -/
theorem map_trimEnd_pieces_append_right
    {blanks : Text}
    (blank : ∀ c ∈ blanks, isBlank c = true)
    (cuts : Nat)
    (place : Place)
    (content : Text) :
    (pieces separator cuts place (content ++ blanks)).map Text.trimEnd =
      (pieces separator cuts place content).map Text.trimEnd := by
  -- blanks are no braces: each step of the content is the same step with the blanks behind it
  have opener (text : Text) := head?_append_blanks blank (show isBlank '{' = false by decide) text
  have closer (text : Text) := head?_append_blanks blank (show isBlank '}' = false by decide) text
  fun_induction pieces separator cuts place content with
  | case1 cuts place =>
      have absent : separator ∉ blanks := fun member =>
        ne_of_isBlank (blank separator member) visible rfl
      rw [List.nil_append, pieces_eq_singleton (length_pieces absent cuts place)]
      exact congrArg (fun text => [text]) (Text.trimEnd_blanks blank [])
  | case2 _ _ c _ _ opened inductionHypothesis =>
      rw [List.cons_append, pieces_cons_of_quoted opened]
      exact map_trimEnd_consFirst inductionHypothesis c
  | case3 _ _ _ _ opens => cases opens.2
  | case4 _ _ c unquoted d rest opens inductionHypothesis =>
      have opensStill : c = '{' ∧ (d :: (rest ++ blanks)).head? = some '{' := opens
      rw [List.cons_append, List.cons_append, pieces_cons_of_opens unquoted opensStill]
      exact map_trimEnd_consFirst (map_trimEnd_consFirst inductionHypothesis d) c
  | case5 _ _ _ _ _ closes => cases closes.2.2
  | case6 _ place c unquoted d rest notOpens closes inductionHypothesis =>
      have opensNot : ¬ (c = '{' ∧ (d :: (rest ++ blanks)).head? = some '{') := notOpens
      have closesStill : 0 < place.depth ∧ c = '}' ∧ (d :: (rest ++ blanks)).head? = some '}' :=
        closes
      rw [List.cons_append, List.cons_append, pieces_cons_of_closes unquoted opensNot closesStill]
      exact map_trimEnd_consFirst (map_trimEnd_consFirst inductionHypothesis d) c
  | case7 _ _ c text unquoted notOpens notCloses ends inductionHypothesis =>
      rw [List.cons_append, pieces_cons_of_ends unquoted (by rwa [opener]) (by rwa [closer]) ends,
        List.map_cons, List.map_cons, inductionHypothesis]
  | case8 _ _ c text unquoted notOpens notCloses goesOn inductionHypothesis =>
      rw [List.cons_append,
        pieces_cons_of_goesOn unquoted (by rwa [opener]) (by rwa [closer]) goesOn]
      exact map_trimEnd_consFirst inductionHypothesis c

/-- Blanks around a content belong to no argument. -/
theorem split_trim (content : Text) :
    split separator (Text.trim content) = split separator content := by
  obtain ⟨before, behind, blankBefore, blankBehind, whole⟩ := Text.exists_padding content
  have trimmed (pieces : List Text) :
      pieces.map Text.trim = (pieces.map Text.trimEnd).map Text.trim := by
    rw [List.map_map]
    exact List.map_congr_left fun piece _ => (Text.trim_trimEnd piece).symm
  have shorter : (Text.trim content).length ≤ content.length := by
    have lengths := congrArg List.length whole
    simp only [List.length_append] at lengths
    omega
  calc
    split separator (Text.trim content)
    _ = (pieces separator content.length .start (Text.trim content)).map Text.trim := by
      rw [split, pieces_congr (Nat.le_refl _) shorter]
    _ = (pieces separator content.length .start (Text.trim content ++ behind)).map Text.trim := by
      rw [trimmed, ← map_trimEnd_pieces_append_right visible blankBehind, ← trimmed]
    _ = (pieces separator content.length .start
          (before ++ (Text.trim content ++ behind))).map Text.trim := by
      rw [map_trim_pieces_append_left visible blankBefore]
    _ = split separator content := by
      rw [← whole, split]

omit visible

/-- A limit changes nothing about the first arguments, and the last one holds the text of all
further ones: cutting it gives them back. Whether or not there is a limit, the content is made up of
pieces between commas, and the arguments are these pieces without the blanks around them. -/
theorem splitAtMost_refines_split
    (content : Text)
    {limit : Nat}
    (positive : 0 < limit) :
    let all := ofContent content
    let few := splitAtMost ',' limit content
    few.length = min limit all.length ∧
      (∃ last, few = all.take (few.length - 1) ++ [last] ∧
        ofContent last = all.drop (few.length - 1)) ∧
      (∃ raw, Text.join [','] raw = content ∧ raw.map Text.trim = few) ∧
      ∃ raw, Text.join [','] raw = content ∧ raw.map Text.trim = all := by
  intro all few
  obtain ⟨last, taken, dropped⟩ := pieces_limited ',' (limit - 1) content
  have proper : 0 < all.length := by
    simp only [all, ofContent, split, List.length_map]
    exact List.length_pos_iff.2 (pieces_ne_nil _ _ _ _)
  have sameLength : all.length = (pieces ',' content.length .start content).length :=
    List.length_map _
  rw [← sameLength] at taken dropped
  have parts : few = all.take (min (limit - 1) (all.length - 1)) ++ [Text.trim last] := by
    simp only [few, splitAtMost]
    rw [taken, List.map_append, List.map_take]
    rfl
  have count : few.length = min limit all.length := by
    rw [parts, List.length_append, List.length_take, List.length_singleton]
    omega
  have first : min (limit - 1) (all.length - 1) = few.length - 1 := by omega
  refine ⟨count, ⟨Text.trim last, by rw [← first]; exact parts, ?_⟩,
    ⟨_, join_pieces _ _ _ _, rfl⟩, ⟨_, join_pieces _ _ _ _, rfl⟩⟩
  calc
    ofContent (Text.trim last)
    _ = ofContent last := split_trim (by decide) last
    _ = all.drop (few.length - 1) := by
      rw [← first, ofContent, split, dropped, List.map_drop]
      rfl

/-- The second argument of two keeps the commas in it, in quotes or not, and gives the others. -/
theorem splitAtMost_refines_split_of_tooltip :
    let content := ".warn , \x7b\x7bMAX:1,2\x7d\x7d, 'hurts, badly',  ".toList
    let rest := "\x7b\x7bMAX:1,2\x7d\x7d, 'hurts, badly',".toList
    0 < 2 ∧ splitAtMost ',' 2 content = [".warn".toList, rest] ∧
      ofContent rest = (ofContent content).drop 1 := by
  intro content rest
  have few : splitAtMost ',' 2 content = [".warn".toList, rest] := by decide +kernel
  obtain ⟨-, ⟨last, parts, others⟩, -⟩ :=
    splitAtMost_refines_split content (show 0 < 2 by decide)
  rw [few] at parts others
  obtain rfl : last = rest := by
    have ends := congrArg List.getLast? parts
    rw [List.getLast?_concat] at ends
    exact (Option.some.inj ends).symm
  exact ⟨by decide, few, others⟩

end Arguments
end CharacterSheet
