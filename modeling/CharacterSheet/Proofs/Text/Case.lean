import CharacterSheet.Text.Case

/-!
# Letter case and marks

No letter of ASCII is a capital in lower case, and none is small in upper case, whatever
the tables map to it (`Text.isUpper_lower`, `Text.isLower_upper`). A character of ASCII is
changed by itself: neither what is around it nor the rule for the final sigma has a say in
it. So marks of such characters that stand in a text in order still do when the letter case
of the text and of the marks is changed (`Text.InOrder.lower`); in upper case, where no
character has a say in the others, any marks do (`Text.InOrder.upper`).
-/

namespace CharacterSheet

theorem isUpper_ofNat
    {code : Nat}
    (outside : code < 'A'.toNat ∨ 'Z'.toNat < code) :
    (Char.ofNat code).isUpper = false := by
  unfold Char.ofNat
  by_cases valid : code.isValidChar
  · rw [dif_pos valid]
    refine decide_eq_false fun capital => ?_
    have low : 'A'.toNat ≤ code := capital.1
    have high : code ≤ 'Z'.toNat := capital.2
    omega
  · rw [dif_neg valid]
    rfl

theorem isLower_ofNat
    {code : Nat}
    (outside : code < 'a'.toNat ∨ 'z'.toNat < code) :
    (Char.ofNat code).isLower = false := by
  unfold Char.ofNat
  by_cases valid : code.isValidChar
  · rw [dif_pos valid]
    refine Bool.eq_false_iff.2 fun small => ?_
    obtain ⟨least, most⟩ := Bool.and_eq_true_iff.1 small
    have low : 'a'.toNat ≤ code := of_decide_eq_true least
    have high : code ≤ 'z'.toNat := of_decide_eq_true most
    omega
  · rw [dif_neg valid]
    rfl

theorem isUpper_toLower (c : Char) : c.toLower.isUpper = false := by
  unfold Char.toLower Char.isUpper
  split <;> grind

theorem isLower_toUpper (c : Char) : c.toUpper.isLower = false := by
  unfold Char.toUpper Char.isLower
  split <;> grind

namespace CaseRun

/-- A character stays, or it is mapped to one that a run leads to. -/
theorem mapped_eq (runs : List CaseRun) (c : Char) :
    ∃ code, mapped runs c = Char.ofNat code ∧
      (code = c.toNat ∨
        ∃ run ∈ runs, run.target ≤ code ∧ code ≤ run.target + (run.last - run.first)) := by
  unfold mapped
  cases found : runs.findSome? fun run => run.map? c.toNat with
  | none => exact ⟨c.toNat, (Char.ofNat_toNat c).symm, .inl rfl⟩
  | some code =>
      obtain ⟨run, member, covers⟩ := List.exists_of_findSome?_eq_some found
      refine ⟨code, rfl, .inr ⟨run, member, ?_⟩⟩
      unfold map? at covers
      split at covers
      · next within =>
          simp only [Bool.and_eq_true, decide_eq_true_eq] at within
          obtain rfl := Option.some.inj covers
          omega
      · cases covers

set_option maxRecDepth 4000 in
/-- The runs to lower case lead to the small letters of ASCII or past them. -/
theorem le_target_of_lower : ∀ run ∈ lower, 'a'.toNat ≤ run.target := by
  decide

set_option maxRecDepth 4000 in
/-- The runs to upper case lead past the small letters of ASCII on either side. -/
theorem target_of_upper :
    ∀ run ∈ upper, run.target + (run.last - run.first) < 'a'.toNat ∨ 'z'.toNat < run.target := by
  decide

set_option maxRecDepth 4000 in
theorem isLower_of_longUpper :
    ∀ entry ∈ longUpper, ∀ code ∈ entry.2, (Char.ofNat code).isLower = false := by
  decide

end CaseRun

theorem isUpper_lowerChar (c : Char) : (lowerChar c).isUpper = false := by
  unfold lowerChar
  split
  · exact isUpper_toLower c
  · next beyond =>
      obtain ⟨code, maps, rfl | ⟨run, member, least, -⟩⟩ := CaseRun.mapped_eq CaseRun.lower c
      · rw [maps]
        exact isUpper_ofNat (.inr (Nat.lt_of_lt_of_le (by decide) (Nat.not_lt.1 beyond)))
      · have small := CaseRun.le_target_of_lower run member
        rw [maps]
        exact isUpper_ofNat (.inr (Nat.lt_of_lt_of_le (by decide) (Nat.le_trans small least)))

theorem isLower_upperChar (c : Char) : (upperChar c).isLower = false := by
  unfold upperChar
  split
  · exact isLower_toUpper c
  · next beyond =>
      obtain ⟨code, maps, rfl | ⟨run, member, least, most⟩⟩ := CaseRun.mapped_eq CaseRun.upper c
      · rw [maps]
        exact isLower_ofNat (.inr (Nat.lt_of_lt_of_le (by decide) (Nat.not_lt.1 beyond)))
      · rw [maps]
        refine isLower_ofNat ?_
        rcases CaseRun.target_of_upper run member with before | behind
        · exact .inl (Nat.lt_of_le_of_lt most before)
        · exact .inr (Nat.lt_of_lt_of_le behind least)

namespace Text

theorem isUpper_lowerOne (c : Char) : ∀ d ∈ lowerOne c, d.isUpper = false := by
  unfold lowerOne
  split
  · simp
  · exact List.forall_mem_singleton.2 (isUpper_lowerChar c)

theorem isLower_upperOne (c : Char) : ∀ d ∈ upperOne c, d.isLower = false := by
  unfold upperOne
  split
  · exact List.forall_mem_singleton.2 (isLower_toUpper c)
  · split
    · next codes listed =>
        obtain ⟨before, after, parts, -⟩ := List.lookup_eq_some_iff.1 listed
        have small := CaseRun.isLower_of_longUpper (c.toNat, codes) (by simp [parts])
        exact List.forall_mem_map.2 small
    · exact List.forall_mem_singleton.2 (isLower_upperChar c)

theorem isUpper_lowerAfter (before text : Text) :
    ∀ c ∈ lowerAfter before text, c.isUpper = false := by
  induction text generalizing before with
  | nil => exact fun _ member => absurd member List.not_mem_nil
  | cons c text inductionHypothesis =>
      refine List.forall_mem_append.2 ⟨?_, inductionHypothesis _⟩
      split
      · split <;> simp
      · exact isUpper_lowerOne c

/-- In lower case there is no capital letter of ASCII. -/
theorem isUpper_lower (text : Text) : ∀ c ∈ lower text, c.isUpper = false :=
  isUpper_lowerAfter [] text

/-- In upper case there is no small letter of ASCII. -/
theorem isLower_upper (text : Text) : ∀ c ∈ upper text, c.isLower = false := by
  intro c member
  obtain ⟨d, -, from_d⟩ := List.mem_flatMap.1 member
  exact isLower_upperOne d c from_d

/-- Whether a text has only characters of ASCII. -/
def IsAscii (text : Text) : Prop := ∀ c ∈ text, c.toNat < 128

theorem lowerOne_of_ascii {c : Char} (ascii : c.toNat < 128) : lowerOne c = [c.toLower] := by
  have undotted : (c == '\u0130') = false := by
    refine beq_eq_false_iff_ne.2 fun dotted => ?_
    subst dotted
    exact absurd ascii (by decide)
  rw [lowerOne, undotted, lowerChar, if_pos ascii]
  rfl

theorem upperOne_of_ascii {c : Char} (ascii : c.toNat < 128) : upperOne c = [c.toUpper] :=
  if_pos ascii

/-- What follows a text is changed behind whatever the text becomes. -/
theorem exists_lowerAfter_append (before left right : Text) :
    ∃ front, lowerAfter before (left ++ right) =
      front ++ lowerAfter (left.reverse ++ before) right := by
  induction left generalizing before with
  | nil => exact ⟨[], rfl⟩
  | cons c left inductionHypothesis =>
      obtain ⟨front, same⟩ := inductionHypothesis (c :: before)
      rw [List.cons_append, lowerAfter, same, List.reverse_cons, List.append_assoc,
        List.singleton_append]
      exact ⟨_, (List.append_assoc _ _ _).symm⟩

/-- A text of ASCII characters is changed by itself. -/
theorem lowerAfter_append_of_ascii
    {mark : Text}
    (ascii : IsAscii mark)
    (before rest : Text) :
    lowerAfter before (mark ++ rest) =
      mark.map Char.toLower ++ lowerAfter (mark.reverse ++ before) rest := by
  induction mark generalizing before with
  | nil => rfl
  | cons c mark inductionHypothesis =>
      obtain ⟨first, others⟩ := List.forall_mem_cons.1 ascii
      have plain : (c == '\u03A3') = false := by
        refine beq_eq_false_iff_ne.2 fun sigma => ?_
        subst sigma
        exact absurd first (by decide)
      rw [List.cons_append, lowerAfter, plain, lowerOne_of_ascii first,
        inductionHypothesis others, List.reverse_cons, List.append_assoc, List.singleton_append]
      rfl

theorem lower_of_ascii {mark : Text} (ascii : IsAscii mark) :
    lower mark = mark.map Char.toLower := by
  have alone := lowerAfter_append_of_ascii ascii [] []
  rwa [List.append_nil, lowerAfter, List.append_nil] at alone

theorem upper_append (left right : Text) : upper (left ++ right) = upper left ++ upper right :=
  List.flatMap_append

theorem upper_of_ascii {mark : Text} (ascii : IsAscii mark) :
    upper mark = mark.map Char.toUpper := by
  induction mark with
  | nil => rfl
  | cons c mark inductionHypothesis =>
      obtain ⟨first, others⟩ := List.forall_mem_cons.1 ascii
      rw [upper, List.flatMap_cons, upperOne_of_ascii first]
      exact congrArg (c.toUpper :: ·) (inductionHypothesis others)

/-- Marks stand in a text one behind the other. -/
def InOrder : List Text → Text → Prop
  | [], _ => True
  | mark :: marks, text => ∃ before rest, text = before ++ (mark ++ rest) ∧ InOrder marks rest

namespace InOrder

variable {marks : List Text} {text : Text}

/-- Every one of the marks stands in the text. -/
theorem isInfix
    (stand : InOrder marks text)
    {mark : Text}
    (member : mark ∈ marks) :
    mark <:+: text := by
  induction marks generalizing text with
  | nil => exact absurd member List.not_mem_nil
  | cons first marks inductionHypothesis =>
      obtain ⟨before, rest, rfl, others⟩ := stand
      rcases List.mem_cons.1 member with rfl | member
      · exact ⟨before, rest, List.append_assoc _ _ _⟩
      · refine (inductionHypothesis others member).trans ?_
        exact ((List.suffix_append first rest).trans (List.suffix_append before _)).isInfix

theorem lowerAfter
    (ascii : ∀ mark ∈ marks, IsAscii mark)
    (stand : InOrder marks text)
    (before : Text) :
    InOrder (marks.map Text.lower) (lowerAfter before text) := by
  induction marks generalizing text before with
  | nil => trivial
  | cons mark marks inductionHypothesis =>
      obtain ⟨front, rest, rfl, others⟩ := stand
      obtain ⟨first, later⟩ := List.forall_mem_cons.1 ascii
      obtain ⟨shown, behind⟩ := exists_lowerAfter_append before front (mark ++ rest)
      rw [lowerAfter_append_of_ascii first, ← lower_of_ascii first] at behind
      exact ⟨shown, _, behind, inductionHypothesis later others _⟩

/-- In lower case the marks stand in the same order. -/
theorem lower
    (ascii : ∀ mark ∈ marks, IsAscii mark)
    (stand : InOrder marks text) :
    InOrder (marks.map Text.lower) (Text.lower text) :=
  stand.lowerAfter ascii []

/-- In upper case the marks stand in the same order. -/
theorem upper (stand : InOrder marks text) :
    InOrder (marks.map Text.upper) (Text.upper text) := by
  induction marks generalizing text with
  | nil => trivial
  | cons mark marks inductionHypothesis =>
      obtain ⟨before, rest, rfl, others⟩ := stand
      rw [upper_append, upper_append]
      exact ⟨_, _, rfl, inductionHypothesis others⟩

end InOrder

end Text

end CharacterSheet
