import Mathlib.Data.List.Basic
import CharacterSheet.Pattern.Linear
import CharacterSheet.Pattern.Substitution
import CharacterSheet.Proofs.Text.Search

/-!
# What a replacement text means

A replacement text is made of characters and of mentions of groups (`Replacement.Reads`), and it can
be read in one way only. Its mentions are written in braces and expanded in this form, which gives
what the text means: every mention becomes the text of its group and everything else stays
(`Replacement.expand_braced`). Braces end a name at the first closing one, so no name may have any,
and they take a number for an index, also where it is written as a name.
-/

namespace CharacterSheet

namespace Replacement

/-- A part of a replacement text. -/
inductive Part
  | character (c : Char)
  /-- The whole match. -/
  | whole
  | named (name : Text)
  | numbered (index : Nat)
  deriving DecidableEq

/-- What a part becomes, given the texts of the groups in a match: the whole match is group 0, and a
name that is an index means the number. -/
def Part.shown (group : Mention → Text) : Part → Text
  | .character c => [c]
  | .whole => group (.number 0)
  | .named name =>
    match Digits.index? name with
    | some index => group (.number index)
    | none => group (.name (String.ofList name))
  | .numbered index => group (.number index)

/-- If the part is a name, it has no closing brace. -/
def Part.Unbraced (part : Part) : Prop := ∀ name, part = .named name → '\x7d' ∉ name

/-- What a dollar sign begins: the text behind it starts with the rest of the part. A number has at
most two digits, and the second belongs to it only if there are enough groups. -/
inductive Begins (groups : Nat) : Text → Part → Text → Prop
  | dollar (rest : Text) : Begins groups ('$' :: rest) (.character '$') rest
  | whole (rest : Text) : Begins groups ('&' :: rest) .whole rest
  | named {name behind rest : Text} (inside : '>' ∉ name) (closed : behind = name ++ '>' :: rest) :
      Begins groups ('<' :: behind) (.named name) rest
  | twoDigits {d e : Char} (first : d.isDigit = true) (second : e.isDigit = true)
      (exist : Digits.toNat [d, e] < groups) (rest : Text) :
      Begins groups (d :: e :: rest) (.numbered (Digits.toNat [d, e])) rest
  | oneDigit {d : Char} (first : d.isDigit = true) {rest : Text}
      (single : ∀ e ∈ rest.head?, e.isDigit = true → groups ≤ Digits.toNat [d, e]) :
      Begins groups (d :: rest) (.numbered (Digits.toNat [d])) rest

/-- The parts of a replacement text. A dollar sign that begins nothing stands for itself. -/
inductive Reads (groups : Nat) : Text → List Part → Prop
  | nil : Reads groups [] []
  | verbatim {c : Char} (other : c ≠ '$') {rest : Text} {parts : List Part}
      (reads : Reads groups rest parts) : Reads groups (c :: rest) (.character c :: parts)
  | begun {behind rest : Text} {part : Part} (begins : Begins groups behind part rest)
      {parts : List Part} (reads : Reads groups rest parts) :
      Reads groups ('$' :: behind) (part :: parts)
  | alone {behind : Text} (never : ∀ part rest, ¬ Begins groups behind part rest)
      {parts : List Part} (reads : Reads groups behind parts) :
      Reads groups ('$' :: behind) (.character '$' :: parts)

/-- No name that a replacement text mentions has a closing brace. -/
def Unbraced (groups : Nat) (text : Text) : Prop :=
  ∀ parts, Reads groups text parts → ∀ part ∈ parts, part.Unbraced

variable {groups : Nat} {text behind rest : Text} {part : Part} {parts : List Part}

/-- A part takes at least one character behind the dollar sign. -/
theorem Begins.exists_append
    (begins : Begins groups behind part rest) :
    ∃ c taken, behind = c :: (taken ++ rest) := by
  cases begins with
  | @named name _ _ _ closed => exact ⟨'<', name ++ ['>'], by simp [closed]⟩
  | @twoDigits d e => exact ⟨d, [e], rfl⟩
  | dollar | whole | oneDigit => exact ⟨_, [], rfl⟩

theorem Begins.length_lt
    (begins : Begins groups behind part rest) :
    rest.length < behind.length := by
  obtain ⟨c, taken, rfl⟩ := begins.exists_append
  simp only [List.length_cons, List.length_append]
  omega

theorem Begins.name_subset
    {name : Text}
    (begins : Begins groups behind (.named name) rest) :
    name ⊆ behind := by
  cases begins with
  | named _ closed =>
      subst closed
      exact List.subset_cons_of_subset _ (List.subset_append_left _ _)

/-- A dollar sign begins one part at most. -/
theorem Begins.unique
    {other : Part}
    {otherRest : Text}
    (begins : Begins groups behind part rest)
    (otherwise : Begins groups behind other otherRest) :
    part = other ∧ rest = otherRest := by
  cases begins with
  | dollar =>
      cases otherwise with
      | dollar => exact ⟨rfl, rfl⟩
      | twoDigits first | oneDigit first => exact absurd first (by decide)
  | whole =>
      cases otherwise with
      | whole => exact ⟨rfl, rfl⟩
      | twoDigits first | oneDigit first => exact absurd first (by decide)
  | named inside closed =>
      cases otherwise with
      | named otherInside otherClosed =>
          have cut := Text.cutAt?_eq_some_iff.2 ⟨inside, closed⟩
          rw [Text.cutAt?_eq_some_iff.2 ⟨otherInside, otherClosed⟩] at cut
          cases cut
          exact ⟨rfl, rfl⟩
      | twoDigits first | oneDigit first => exact absurd first (by decide)
  | twoDigits first second exist =>
      cases otherwise with
      | twoDigits => exact ⟨rfl, rfl⟩
      | oneDigit _ single => exact absurd (single _ rfl second) (Nat.not_le_of_lt exist)
      | dollar | whole | named => exact absurd first (by decide)
  | oneDigit first single =>
      cases otherwise with
      | oneDigit => exact ⟨rfl, rfl⟩
      | twoDigits _ second exist => exact absurd (single _ rfl second) (Nat.not_le_of_lt exist)
      | _ => exact absurd first (by decide)

/-- Every replacement text can be read. -/
theorem exists_reads (groups : Nat) (text : Text) : ∃ parts, Reads groups text parts := by
  induction bound : text.length using Nat.strongRecOn generalizing text with
  | _ length inductionHypothesis =>
      subst bound
      cases text with
      | nil => exact ⟨[], .nil⟩
      | cons c behind =>
          have shorter {rest : Text} (le : rest.length ≤ behind.length) :
              ∃ parts, Reads groups rest parts :=
            inductionHypothesis rest.length (Nat.lt_succ_of_le le) rest rfl
          obtain ⟨parts, reads⟩ := shorter (Nat.le_refl _)
          by_cases other : c ≠ '$'
          · exact ⟨_, .verbatim other reads⟩
          · obtain rfl := not_ne_iff.1 other
            by_cases begun : ∃ part rest, Begins groups behind part rest
            · obtain ⟨part, rest, begins⟩ := begun
              obtain ⟨later, readsLater⟩ := shorter (Nat.le_of_lt begins.length_lt)
              exact ⟨_, .begun begins readsLater⟩
            · exact ⟨_, .alone (fun part rest begins => begun ⟨part, rest, begins⟩) reads⟩

/-- A replacement text can be read in one way only. -/
theorem Reads.unique
    {others : List Part}
    (reads : Reads groups text parts)
    (otherwise : Reads groups text others) :
    parts = others := by
  induction reads generalizing others with
  | nil =>
      cases otherwise
      rfl
  | verbatim other _ inductionHypothesis =>
      cases otherwise with
      | verbatim _ later => rw [inductionHypothesis later]
      | begun | alone => exact absurd rfl other
  | begun begins _ inductionHypothesis =>
      cases otherwise with
      | verbatim other => exact absurd rfl other
      | begun otherBegins later =>
          obtain ⟨rfl, rfl⟩ := begins.unique otherBegins
          rw [inductionHypothesis later]
      | alone never => exact absurd begins (never _ _)
  | alone never _ inductionHypothesis =>
      cases otherwise with
      | verbatim other => exact absurd rfl other
      | begun begins => exact absurd begins (never _ _)
      | alone _ later => rw [inductionHypothesis later]

/-! ## The braced form -/

theorem braced_cons
    {c : Char}
    (other : c ≠ '$')
    (rest : Text) :
    braced groups (c :: rest) = c :: braced groups rest := by
  rw [braced] <;> simp [other]

theorem braced_of_named
    {name : Text}
    (inside : '>' ∉ name)
    (rest : Text) :
    braced groups ('$' :: '<' :: (name ++ '>' :: rest)) = mention name ++ braced groups rest := by
  have cut := Text.cutAt?_append inside rest
  rw [braced]
  split
  · next found =>
      rw [cut] at found
      cases found
      rfl
  · next found =>
      rw [cut] at found
      cases found

/-- A dollar sign before none of its other marks mentions a number if a digit is next, and is
doubled otherwise. -/
theorem braced_dollar
    {d : Char}
    (noDollar : d ≠ '$')
    (noWhole : d ≠ '&')
    (noName : d ≠ '<')
    (rest : Text) :
    braced groups ('$' :: d :: rest) =
      if d.isDigit then
        match rest with
        | e :: behind =>
          if e.isDigit ∧ Digits.toNat [d, e] < groups then mention [d, e] ++ braced groups behind
          else mention [d] ++ braced groups (e :: behind)
        | [] => mention [d]
      else '$' :: '$' :: braced groups (d :: rest) := by
  cases rest with
  | nil => rw [braced] <;> assumption
  | cons e behind => rw [braced] <;> assumption

theorem braced_of_digit
    {d : Char}
    (first : d.isDigit = true)
    (rest : Text) :
    braced groups ('$' :: d :: rest) =
      match rest with
      | e :: behind =>
        if e.isDigit ∧ Digits.toNat [d, e] < groups then mention [d, e] ++ braced groups behind
        else mention [d] ++ braced groups (e :: behind)
      | [] => mention [d] := by
  have proper {c : Char} (noDigit : c.isDigit = false) : d ≠ c := by
    rintro rfl
    exact absurd first (by simp [noDigit])
  rw [braced_dollar (proper (by decide)) (proper (by decide)) (proper (by decide)), if_pos first]

theorem braced_of_twoDigits
    {d e : Char}
    (first : d.isDigit = true)
    (second : e.isDigit = true)
    (exist : Digits.toNat [d, e] < groups)
    (rest : Text) :
    braced groups ('$' :: d :: e :: rest) = mention [d, e] ++ braced groups rest := by
  rw [braced_of_digit first]
  exact if_pos ⟨second, exist⟩

theorem braced_of_oneDigit
    {d : Char}
    (first : d.isDigit = true)
    {rest : Text}
    (single : ∀ e ∈ rest.head?, e.isDigit = true → groups ≤ Digits.toNat [d, e]) :
    braced groups ('$' :: d :: rest) = mention [d] ++ braced groups rest := by
  rw [braced_of_digit first]
  cases rest with
  | nil => rw [braced_nil, List.append_nil]
  | cons e rest =>
      have apart : ¬ (e.isDigit = true ∧ Digits.toNat [d, e] < groups) := by
        rintro ⟨second, exist⟩
        exact Nat.not_le_of_lt exist (single e rfl second)
      exact if_neg apart

/-- A digit behind a dollar sign begins a number. -/
theorem exists_begins_of_isDigit
    {d : Char}
    (first : d.isDigit = true)
    (behind : Text) :
    ∃ part rest, Begins groups (d :: behind) part rest := by
  by_cases single : ∀ e ∈ behind.head?, e.isDigit = true → groups ≤ Digits.toNat [d, e]
  · exact ⟨_, _, .oneDigit first single⟩
  · simp only [not_forall, Nat.not_le] at single
    obtain ⟨e, isHead, second, exist⟩ := single
    obtain ⟨rest, rfl⟩ := List.head?_eq_some_iff.1 isHead
    exact ⟨_, _, .twoDigits first second exist rest⟩

theorem braced_of_alone
    (never : ∀ part rest, ¬ Begins groups behind part rest) :
    braced groups ('$' :: behind) = '$' :: '$' :: braced groups behind := by
  cases behind with
  | nil => simp [braced]
  | cons d behind =>
      have noDollar : d ≠ '$' := by
        rintro rfl
        exact never _ _ (.dollar behind)
      have noWhole : d ≠ '&' := by
        rintro rfl
        exact never _ _ (.whole behind)
      have noDigit : d.isDigit ≠ true := fun first => by
        obtain ⟨part, rest, begins⟩ := exists_begins_of_isDigit first behind
        exact never part rest begins
      by_cases bracket : d = '<'
      · subst bracket
        have uncut : Text.cutAt? '>' behind = none := by
          refine Option.eq_none_iff_forall_ne_some.2 fun cut found => ?_
          obtain ⟨inside, closed⟩ := Text.cutAt?_eq_some_iff.1 found
          exact never _ _ (.named inside closed)
        rw [braced, braced_cons (by decide)]
        split
        · next found =>
            rw [uncut] at found
            cases found
        · rfl
      · rw [braced_dollar noDollar noWhole bracket, if_neg noDigit]

/-! ## Expansion -/

theorem value_le_nine
    {d : Char}
    (isDigit : d.isDigit = true) :
    Digits.value d ≤ 9 := by
  have most : d.toNat ≤ 57 := by
    simp only [Char.isDigit, Bool.and_eq_true, decide_eq_true_eq] at isDigit
    exact isDigit.2
  have zero : '0'.toNat = 48 := rfl
  unfold Digits.value
  omega

theorem toNat_lt_of_length_le_two
    {digits : Text}
    (areDigits : ∀ c ∈ digits, c.isDigit = true)
    (few : digits.length ≤ 2) :
    Digits.toNat digits < 100 := by
  match digits, few with
  | [], _ => exact Nat.zero_lt_succ _
  | [d], _ =>
      have first := value_le_nine (areDigits d (by simp))
      change 10 * 0 + Digits.value d < 100
      omega
  | [d, e], _ =>
      have first := value_le_nine (areDigits d (by simp))
      have second := value_le_nine (areDigits e (by simp))
      change 10 * (10 * 0 + Digits.value d) + Digits.value e < 100
      omega

/-- Two digits at most are an index. -/
theorem ofText_digits
    {digits : Text}
    (proper : digits ≠ [])
    (areDigits : ∀ c ∈ digits, c.isDigit = true)
    (few : digits.length ≤ 2) :
    Mention.ofText digits = .number (Digits.toNat digits) := by
  have noSign (rest : Text) : digits ≠ '+' :: rest := by
    rintro rfl
    exact absurd (areDigits '+' List.mem_cons_self) (by decide)
  have small : Digits.toNat digits < 2 ^ 64 :=
    Nat.lt_trans (toNat_lt_of_length_le_two areDigits few) (by decide)
  have isIndex : Digits.index? digits = some (Digits.toNat digits) := by
    unfold Digits.index?
    split
    · next rest => exact absurd rfl (noSign rest)
    · have isNumber : ¬ (digits.isEmpty || !digits.all Char.isDigit) = true := by
        simp [proper, List.all_eq_true.2 areDigits]
      exact (if_neg isNumber).trans (if_pos small)
  rw [Mention.ofText, isIndex]

section Expansion

variable (group : Mention → Text)

theorem expand_cons
    {c : Char}
    (other : c ≠ '$')
    (rest : Text) :
    expand group (c :: rest) = c :: expand group rest := by
  rw [expand] <;> simp [other]

theorem expand_dollars (rest : Text) :
    expand group ('$' :: '$' :: rest) = '$' :: expand group rest := by
  rw [expand]

theorem expand_mention
    {name : Text}
    (unbraced : '\x7d' ∉ name)
    (rest : Text) :
    expand group (mention name ++ rest) = group (.ofText name) ++ expand group rest := by
  have cut := Text.cutAt?_append unbraced rest
  rw [mention, List.cons_append, List.cons_append, List.append_assoc, List.singleton_append, expand]
  split
  · next found =>
      rw [cut] at found
      cases found
      rfl
  · next found =>
      rw [cut] at found
      cases found

/-- The part that a dollar sign begins becomes the text of its group. -/
theorem expand_braced_of_begins
    (begins : Begins groups behind part rest)
    (unbraced : part.Unbraced) :
    expand group (braced groups ('$' :: behind)) =
      part.shown group ++ expand group (braced groups rest) := by
  have unbraced_of_digits {digits : Text} (areDigits : ∀ c ∈ digits, c.isDigit = true) :
      '\x7d' ∉ digits :=
    fun mem => absurd (areDigits _ mem) (by decide)
  cases begins with
  | dollar => rw [braced, expand_dollars, Part.shown, List.singleton_append]
  | whole =>
      rw [braced, expand_mention group (by decide)]
      rfl
  | @named name _ _ inside closed =>
      subst closed
      rw [braced_of_named inside, expand_mention group (unbraced name rfl), Mention.ofText,
        Part.shown]
      cases Digits.index? name <;> rfl
  | @twoDigits d e first second exist =>
      have areDigits : ∀ c ∈ [d, e], c.isDigit = true := by simp [first, second]
      rw [braced_of_twoDigits first second exist,
        expand_mention group (unbraced_of_digits areDigits),
        ofText_digits (List.cons_ne_nil _ _) areDigits (Nat.le_refl 2)]
      rfl
  | @oneDigit d first _ single =>
      have areDigits : ∀ c ∈ [d], c.isDigit = true := by simp [first]
      rw [braced_of_oneDigit first single, expand_mention group (unbraced_of_digits areDigits),
        ofText_digits (List.cons_ne_nil _ _) areDigits (Nat.le_succ 1)]
      rfl

/-- A dollar sign that begins nothing stays. -/
theorem expand_braced_of_alone
    (never : ∀ part rest, ¬ Begins groups behind part rest) :
    expand group (braced groups ('$' :: behind)) = '$' :: expand group (braced groups behind) := by
  rw [braced_of_alone never, expand_dollars]

end Expansion

theorem expand_braced_of_reads
    (reads : Reads groups text parts)
    (unbraced : ∀ part ∈ parts, part.Unbraced)
    (group : Mention → Text) :
    expand group (braced groups text) = parts.flatMap (Part.shown group) := by
  induction reads with
  | nil =>
      rw [braced_nil, expand_nil]
      rfl
  | verbatim other _ inductionHypothesis =>
      obtain ⟨-, unbraced⟩ := List.forall_mem_cons.1 unbraced
      rw [braced_cons other, expand_cons group other, inductionHypothesis unbraced]
      rfl
  | begun begins _ inductionHypothesis =>
      obtain ⟨first, unbraced⟩ := List.forall_mem_cons.1 unbraced
      rw [expand_braced_of_begins group begins first, inductionHypothesis unbraced,
        List.flatMap_cons]
  | alone never _ inductionHypothesis =>
      obtain ⟨-, unbraced⟩ := List.forall_mem_cons.1 unbraced
      rw [expand_braced_of_alone group never, inductionHypothesis unbraced]
      rfl

/-- A replacement text without closing braces mentions no name with one. -/
theorem unbraced_of_not_mem
    (absent : '\x7d' ∉ text) :
    Unbraced groups text := by
  intro parts reads
  induction reads with
  | nil => exact fun _ mem => nomatch mem
  | verbatim _ _ inductionHypothesis | alone _ _ inductionHypothesis =>
      have later := inductionHypothesis fun mem => absent (List.mem_cons_of_mem _ mem)
      exact List.forall_mem_cons.2 ⟨fun _ same => (nomatch same), later⟩
  | begun begins _ inductionHypothesis =>
      have later := inductionHypothesis fun mem => by
        obtain ⟨c, taken, rfl⟩ := begins.exists_append
        exact absent (by simp [mem])
      refine List.forall_mem_cons.2 ⟨fun name same mem => ?_, later⟩
      subst same
      exact absent (List.mem_cons_of_mem _ (begins.name_subset mem))

/-- A replacement text can be read in one way only, and expanding its braced form gives what it
means: with the texts of groups in place of their mentions and all else as it stands. -/
theorem expand_braced
    (groups : Nat)
    {text : Text}
    (unbraced : Unbraced groups text) :
    ∃ parts, (∀ others, Reads groups text others ↔ others = parts) ∧
      ∀ group : Mention → Text,
        expand group (braced groups text) = parts.flatMap (Part.shown group) := by
  obtain ⟨parts, reads⟩ := exists_reads groups text
  refine ⟨parts, fun others => ⟨fun otherwise => otherwise.unique reads, ?_⟩, ?_⟩
  · rintro rfl
    exact reads
  · exact expand_braced_of_reads reads (unbraced parts reads)

/-- A name that is an index is taken for the number: the pattern names no group, but the text of its
first group is shown. -/
theorem named_index_shows_group :
    Reads 2 "$<1>".toList [.named ['1']] ∧
      (Pattern.read? {} "(a)b".toList).map Pattern.groupNames = some [] ∧
      (Substitution.ofRule .linear { pattern := "(a)b", replacement := "$<1>" }).toOption.map
          (fun substitution => substitution.apply "ab".toList) =
        some "a".toList := by
  refine ⟨?_, ?_, ?_⟩
  · exact .begun (.named (by decide : '>' ∉ ['1']) rfl) .nil
  · decide +kernel
  · decide +kernel

/-- A number next to a digit, a name and a dollar sign at the end. -/
theorem expand_braced_of_one_group :
    let text : Text := ['$', '1', '2', '$', '<', 'a', '>', '$']
    Unbraced 2 text ∧
      ∀ group : Mention → Text,
        expand group (braced 2 text) = group (.number 1) ++ '2' :: group (.name "a") ++ ['$'] := by
  intro text
  have unbraced : Unbraced 2 text := unbraced_of_not_mem (by decide)
  have name : Begins 2 ['<', 'a', '>', '$'] (.named ['a']) ['$'] := .named (by decide) rfl
  have last : Reads 2 ['$'] [.character '$'] :=
    .alone (fun _ _ begins => absurd begins.length_lt (Nat.not_lt_zero _)) .nil
  have number : Begins 2 ['1', '2', '$', '<', 'a', '>', '$'] (.numbered 1)
      ['2', '$', '<', 'a', '>', '$'] := by
    refine .oneDigit rfl ?_
    rintro _ ⟨⟩ _
    decide
  have reads : Reads 2 text [.numbered 1, .character '2', .named ['a'], .character '$'] :=
    .begun number (.verbatim (by decide) (.begun name last))
  obtain ⟨parts, isReading, expands⟩ := expand_braced 2 unbraced
  obtain rfl := (isReading _).1 reads
  exact ⟨unbraced, fun group => (expands group).trans (by simp [Part.shown]; rfl)⟩

end Replacement
end CharacterSheet
