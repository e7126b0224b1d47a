import CharacterSheet.Notation.Expression
import CharacterSheet.Proofs.Text.Trim
import Mathlib.Data.List.Chain
import Mathlib.Data.List.TakeDrop
import Mathlib.Data.List.TakeWhile

/-!
# Lexemes of expressions

An expression is written in numbers, names, operators and parentheses, with blanks around
each. A number or a name is taken as long as possible: no lexeme at its place is longer
(`Lexes`). The characters that are taken as a number or as a name are the longest lexeme
(`longestIn_of_spanNumber`, `longestIn_of_span_isPathChar`), and where no two words stand side
by side, lexemes with any blanks between them are each the longest at their place
(`Spaced.lexes`).
-/

namespace CharacterSheet
namespace Expression

/-- Digits with at most one point, and at least one digit. -/
inductive IsLiteral : Text → Prop
  | whole
      {digits : Text}
      (proper : digits ≠ [])
      (isDigit : ∀ c ∈ digits, c.isDigit = true) :
      IsLiteral digits
  | pointed
      {whole places : Text}
      (proper : whole ++ places ≠ [])
      (isDigit : ∀ c ∈ whole ++ places, c.isDigit = true) :
      IsLiteral (whole ++ '.' :: places)

/-- A letter or an underscore, and behind it letters, digits, underscores and points. -/
inductive IsPath : Text → Prop
  | mk
      {c : Char}
      {text : Text}
      (leads : c.isAlpha = true ∨ c = '_')
      (named : ∀ d ∈ text, isPathChar d = true) :
      IsPath (c :: text)

/-- A lexeme of an expression. -/
inductive Lexeme
  | number (literal : Text) (isLiteral : IsLiteral literal)
  | name (path : Text) (isPath : IsPath path)
  | operator (op : Operator)
  | opening
  | closing

namespace Lexeme

/-- The characters of a lexeme. -/
def text : Lexeme → Text
  | .number literal _ => literal
  | .name path _ => path
  | .operator op => [op.symbol]
  | .opening => ['(']
  | .closing => [')']

/-- Whether a lexeme is a number or a name. -/
def IsWord : Lexeme → Prop
  | .number _ _ => True
  | .name _ _ => True
  | _ => False

/-- No lexeme at the start of a text is longer. -/
def LongestIn (lexeme : Lexeme) (text : Text) : Prop :=
  ∀ other : Lexeme, other.text <+: text → other.text.length ≤ lexeme.text.length

/-- Of two lexemes that are apart, one is no word. -/
def Apart (first second : Lexeme) : Prop := first.IsWord → ¬ second.IsWord

end Lexeme

/-- A text that starts with lexemes, each the longest at its place, with blanks in front of
any of them, up to a rest. -/
inductive Lexes : Text → List Lexeme → Text → Prop
  | nil {rest : Text} : Lexes rest [] rest
  | cons
      {blanks text rest : Text}
      {lexeme : Lexeme}
      {lexemes : List Lexeme}
      (blank : ∀ c ∈ blanks, isBlank c = true)
      (longest : lexeme.LongestIn (lexeme.text ++ text))
      (others : Lexes text lexemes rest) :
      Lexes (blanks ++ (lexeme.text ++ text)) (lexeme :: lexemes) rest

/-- Lexemes in order with any blanks before, between and behind them. -/
inductive Spaced : Text → List Lexeme → Prop
  | nil
      {blanks : Text}
      (blank : ∀ c ∈ blanks, isBlank c = true) :
      Spaced blanks []
  | cons
      {blanks text : Text}
      {lexeme : Lexeme}
      {lexemes : List Lexeme}
      (blank : ∀ c ∈ blanks, isBlank c = true)
      (others : Spaced text lexemes) :
      Spaced (blanks ++ (lexeme.text ++ text)) (lexeme :: lexemes)

/-- The characters that no number and no name has. -/
def IsSeparator (c : Char) : Prop :=
  isBlank c = true ∨ c ∈ ['+', '-', '*', '/', '(', ')']

instance (c : Char) : Decidable (IsSeparator c) :=
  inferInstanceAs (Decidable (_ ∨ _))

theorem IsSeparator.not_isPathChar
    {c : Char}
    (separates : IsSeparator c) :
    isPathChar c = false := by
  rw [← Bool.not_eq_true]
  intro named
  unfold isPathChar Char.isAlphanum Char.isAlpha Char.isUpper Char.isLower Char.isDigit at named
  unfold IsSeparator isBlank at separates
  simp [UInt32.le_iff_toNat_le, Char.le_def, ← Char.toNat_inj] at named separates
  omega

theorem isPathChar_of_isDigit
    {c : Char}
    (digit : c.isDigit = true) :
    isPathChar c = true := by
  simp [isPathChar, Char.isAlphanum, digit]

theorem isPathChar_of_leads
    {c : Char}
    (leads : c.isAlpha = true ∨ c = '_') :
    isPathChar c = true := by
  rcases leads with letter | rfl
  · simp [isPathChar, Char.isAlphanum, letter]
  · rfl

/-- No number starts as a name does. -/
theorem not_leads
    {c : Char}
    (begins : c.isDigit = true ∨ c = '.') :
    ¬ (c.isAlpha = true ∨ c = '_') := by
  unfold Char.isAlpha Char.isUpper Char.isLower
  unfold Char.isDigit at begins
  simp [UInt32.le_iff_toNat_le, ← Char.toNat_inj] at begins ⊢
  omega

namespace IsLiteral

variable {literal : Text}

/-- A number starts with a digit or its point. -/
theorem exists_cons (isLiteral : IsLiteral literal) :
    ∃ c text, literal = c :: text ∧ (c.isDigit = true ∨ c = '.') := by
  cases isLiteral with
  | whole proper isDigit =>
      obtain ⟨c, text, rfl⟩ := List.exists_cons_of_ne_nil proper
      exact ⟨c, text, rfl, .inl (isDigit c List.mem_cons_self)⟩
  | @pointed whole places proper isDigit =>
      cases whole with
      | nil => exact ⟨'.', places, rfl, .inr rfl⟩
      | cons c whole => exact ⟨c, _, rfl, .inl (isDigit c List.mem_cons_self)⟩

theorem exists_isDigit (isLiteral : IsLiteral literal) : ∃ c ∈ literal, c.isDigit = true := by
  cases isLiteral with
  | whole proper isDigit =>
      obtain ⟨c, member⟩ := List.exists_mem_of_ne_nil _ proper
      exact ⟨c, member, isDigit c member⟩
  | pointed proper isDigit =>
      obtain ⟨c, member⟩ := List.exists_mem_of_ne_nil _ proper
      refine ⟨c, ?_, isDigit c member⟩
      rcases List.mem_append.1 member with inWhole | inPlaces
      · exact List.mem_append_left _ inWhole
      · exact List.mem_append_right _ (List.mem_cons_of_mem _ inPlaces)

theorem isPathChar_of_mem
    (isLiteral : IsLiteral literal)
    {c : Char}
    (member : c ∈ literal) :
    isPathChar c = true := by
  cases isLiteral with
  | whole proper isDigit => exact isPathChar_of_isDigit (isDigit c member)
  | @pointed whole places proper isDigit =>
      rw [List.mem_append, List.mem_cons] at member
      rcases member with inWhole | rfl | inPlaces
      · exact isPathChar_of_isDigit (isDigit c (List.mem_append_left _ inWhole))
      · rfl
      · exact isPathChar_of_isDigit (isDigit c (List.mem_append_right _ inPlaces))

/-- No number is a name. -/
theorem not_isPath (isLiteral : IsLiteral literal) : ¬ IsPath literal := by
  intro isPath
  obtain ⟨c, text, rfl, begins⟩ := isLiteral.exists_cons
  cases isPath with
  | mk leads _ => exact not_leads begins leads

end IsLiteral

theorem IsPath.isPathChar_of_mem
    {path : Text}
    (isPath : IsPath path)
    {c : Char}
    (member : c ∈ path) :
    isPathChar c = true := by
  cases isPath with
  | mk leads named =>
      rcases List.mem_cons.1 member with rfl | behind
      · exact isPathChar_of_leads leads
      · exact named c behind

theorem spanNumber_eq (text : Text) :
    spanNumber text =
      match text.dropWhile Char.isDigit with
      | '.' :: rest =>
          (text.takeWhile Char.isDigit ++ '.' :: rest.takeWhile Char.isDigit,
            rest.dropWhile Char.isDigit)
      | rest => (text.takeWhile Char.isDigit, rest) := by
  simp only [spanNumber, Digits.spanStart, List.span_eq_takeWhile_dropWhile]
  cases text.dropWhile Char.isDigit with
  | nil => rfl
  | cons c rest =>
      by_cases point : c = '.'
      · subst point
        rfl
      · simp [point]

theorem spanNumber_append (text : Text) : (spanNumber text).1 ++ (spanNumber text).2 = text := by
  rw [spanNumber_eq]
  split
  · next rest behind =>
      rw [List.append_assoc, List.cons_append, List.takeWhile_append_dropWhile, ← behind,
        List.takeWhile_append_dropWhile]
  · next rest _ => exact List.takeWhile_append_dropWhile

/-- Every number at the start of a text is part of the one that is taken. -/
theorem IsLiteral.prefix_spanNumber
    {literal text : Text}
    (isLiteral : IsLiteral literal)
    (starts : literal <+: text) :
    literal <+: (spanNumber text).1 := by
  obtain ⟨rest, rfl⟩ := starts
  rw [spanNumber_eq]
  cases isLiteral with
  | whole proper isDigit =>
      rw [List.takeWhile_append_of_pos isDigit, List.dropWhile_append_of_pos isDigit]
      split
      · rw [List.append_assoc]
        exact List.prefix_append _ _
      · exact List.prefix_append _ _
  | @pointed whole places proper isDigit =>
      have inWhole : ∀ c ∈ whole, c.isDigit = true := fun c member =>
        isDigit c (List.mem_append_left _ member)
      have inPlaces : ∀ c ∈ places, c.isDigit = true := fun c member =>
        isDigit c (List.mem_append_right _ member)
      rw [List.append_assoc, List.takeWhile_append_of_pos inWhole,
        List.dropWhile_append_of_pos inWhole, List.cons_append,
        List.takeWhile_cons_of_neg (by decide), List.dropWhile_cons_of_neg (by decide),
        List.append_nil]
      change _ <+: whole ++ '.' :: (places ++ rest).takeWhile Char.isDigit
      rw [List.takeWhile_append_of_pos inPlaces, List.prefix_append_right_inj,
        List.cons_prefix_cons]
      exact ⟨rfl, List.prefix_append _ _⟩

/-- What is taken is a number if it has a digit. -/
theorem isLiteral_spanNumber
    {text : Text}
    (digit : (spanNumber text).1.any Char.isDigit = true) :
    IsLiteral (spanNumber text).1 := by
  have whole (text : Text) : ∀ c ∈ text.takeWhile Char.isDigit, c.isDigit = true := fun c =>
    List.mem_takeWhile_imp
  rw [spanNumber_eq] at digit ⊢
  split at digit
  · next rest behind =>
      refine .pointed ?_ ?_
      · intro empty
        obtain ⟨noWhole, noPlaces⟩ := List.append_eq_nil_iff.1 empty
        rw [noWhole, noPlaces] at digit
        cases digit
      · intro c member
        rcases List.mem_append.1 member with inWhole | inPlaces
        · exact whole text c inWhole
        · exact whole rest c inPlaces
  · refine .whole ?_ (whole text)
    intro empty
    rw [empty] at digit
    cases digit

namespace Lexeme

/-- A lexeme that is no word is a single character, which separates words. -/
theorem exists_separator
    {lexeme : Lexeme}
    (symbol : ¬ lexeme.IsWord) :
    ∃ c, lexeme.text = [c] ∧ IsSeparator c := by
  cases lexeme with
  | number | name => exact absurd trivial symbol
  | operator op => exact ⟨op.symbol, rfl, .inr (by cases op <;> decide)⟩
  | opening => exact ⟨'(', rfl, .inr (by decide)⟩
  | closing => exact ⟨')', rfl, .inr (by decide)⟩

/-- A word is made of the characters of words. -/
theorem isPathChar_of_mem
    {lexeme : Lexeme}
    (word : lexeme.IsWord)
    {c : Char}
    (member : c ∈ lexeme.text) :
    isPathChar c = true := by
  cases lexeme with
  | number literal isLiteral => exact isLiteral.isPathChar_of_mem member
  | name path isPath => exact isPath.isPathChar_of_mem member
  | operator | opening | closing => exact word.elim

theorem text_ne_nil (lexeme : Lexeme) : lexeme.text ≠ [] := by
  cases lexeme with
  | number literal isLiteral =>
      obtain ⟨c, text, rfl, -⟩ := isLiteral.exists_cons
      exact List.cons_ne_nil c text
  | name path isPath =>
      cases isPath
      exact List.cons_ne_nil _ _
  | operator | opening | closing => exact List.cons_ne_nil _ _

theorem length_text_pos (lexeme : Lexeme) : 0 < lexeme.text.length :=
  List.length_pos_iff.2 lexeme.text_ne_nil

/-- No lexeme holds a blank. -/
theorem isBlank_of_mem
    {lexeme : Lexeme}
    {c : Char}
    (member : c ∈ lexeme.text) :
    isBlank c = false := by
  by_cases word : lexeme.IsWord
  · have named := isPathChar_of_mem word member
    rw [← Bool.not_eq_true]
    intro blank
    have separates : IsSeparator c := .inl blank
    rw [separates.not_isPathChar] at named
    cases named
  · cases lexeme with
    | number | name => exact absurd trivial word
    | operator op =>
        obtain rfl := List.mem_singleton.1 member
        cases op <;> decide
    | opening | closing =>
        obtain rfl := List.mem_singleton.1 member
        decide

theorem trimStart_append
    (lexeme : Lexeme)
    (text : Text) :
    Text.trimStart (lexeme.text ++ text) = lexeme.text ++ text := by
  obtain ⟨c, rest, same⟩ := List.exists_cons_of_ne_nil lexeme.text_ne_nil
  have shown : isBlank c = false := isBlank_of_mem (same ▸ List.mem_cons_self)
  rw [same, List.cons_append]
  exact List.dropWhile_cons_of_neg (by simp [shown])

/-- Whether a lexeme is a word shows in its first character. -/
theorem isWord_of_text_eq
    {first second : Lexeme}
    (same : first.text = second.text)
    (word : first.IsWord) :
    second.IsWord := by
  by_contra symbol
  obtain ⟨c, single, separates⟩ := exists_separator symbol
  have named := isPathChar_of_mem word (same ▸ single ▸ List.mem_singleton_self c)
  rw [separates.not_isPathChar] at named
  cases named

/-- A lexeme is known by its characters. -/
theorem text_injective : Function.Injective text := by
  intro first second same
  have word := isWord_of_text_eq same
  have otherWord := isWord_of_text_eq same.symm
  cases first with
  | number literal isLiteral =>
      cases second with
      | number =>
          cases same
          rfl
      | name path isPath =>
          cases same
          exact absurd isPath isLiteral.not_isPath
      | operator | opening | closing => exact (word trivial).elim
  | name path isPath =>
      cases second with
      | number literal isLiteral =>
          cases same
          exact absurd isPath isLiteral.not_isPath
      | name =>
          cases same
          rfl
      | operator | opening | closing => exact (word trivial).elim
  | operator op =>
      cases second with
      | number | name => exact (otherWord trivial).elim
      | operator other => cases op <;> cases other <;> first | rfl | cases same
      | opening | closing => cases op <;> cases same
  | opening | closing =>
      cases second with
      | number | name => exact (otherWord trivial).elim
      | operator op => cases op <;> cases same
      | opening | closing => first | rfl | cases same

/-- A symbol is the longest lexeme at its place. -/
theorem longestIn_of_symbol
    {lexeme : Lexeme}
    (symbol : ¬ lexeme.IsWord)
    (rest : Text) :
    lexeme.LongestIn (lexeme.text ++ rest) := by
  intro other starts
  obtain ⟨c, same, separates⟩ := exists_separator symbol
  by_cases word : other.IsWord
  · obtain ⟨d, text, starting⟩ := List.exists_cons_of_ne_nil other.text_ne_nil
    rw [same, starting] at starts
    obtain ⟨rfl, -⟩ := List.cons_prefix_cons.1 starts
    have named := isPathChar_of_mem word (starting ▸ List.mem_cons_self)
    rw [separates.not_isPathChar] at named
    cases named
  · obtain ⟨d, single, -⟩ := exists_separator word
    rw [single]
    exact lexeme.length_text_pos

/-- A word is the longest lexeme at its place where a separator or nothing follows. -/
theorem longestIn_of_separated
    {lexeme : Lexeme}
    (word : lexeme.IsWord)
    {rest : Text}
    (separated : ∀ c ∈ rest.head?, IsSeparator c) :
    lexeme.LongestIn (lexeme.text ++ rest) := by
  intro other starts
  by_cases isWord : other.IsWord
  · have stops : rest.takeWhile isPathChar = [] := by
      cases rest with
      | nil => rfl
      | cons c rest =>
          exact List.takeWhile_cons_of_neg (by simp [(separated c rfl).not_isPathChar])
    have whole : (lexeme.text ++ rest).takeWhile isPathChar = lexeme.text := by
      rw [List.takeWhile_append_of_pos fun c member => isPathChar_of_mem word member, stops,
        List.append_nil]
    have inside : other.text <+: (lexeme.text ++ rest).takeWhile isPathChar := by
      obtain ⟨behind, joined⟩ := starts
      rw [← joined,
        List.takeWhile_append_of_pos fun c member => isPathChar_of_mem isWord member]
      exact List.prefix_append _ _
    exact (whole ▸ inside).length_le
  · obtain ⟨c, single, -⟩ := exists_separator isWord
    rw [single]
    exact lexeme.length_text_pos

end Lexeme

/-- The longest number at its place is what is taken. -/
theorem spanNumber_of_longestIn
    {literal rest : Text}
    {isLiteral : IsLiteral literal}
    (longest : (Lexeme.number literal isLiteral).LongestIn (literal ++ rest)) :
    spanNumber (literal ++ rest) = (literal, rest) := by
  have whole := spanNumber_append (literal ++ rest)
  have inside := isLiteral.prefix_spanNumber (List.prefix_append literal rest)
  have digit : (spanNumber (literal ++ rest)).1.any Char.isDigit = true := by
    obtain ⟨c, member, digit⟩ := isLiteral.exists_isDigit
    exact List.any_eq_true.2 ⟨c, inside.subset member, digit⟩
  have notLonger := longest (.number _ (isLiteral_spanNumber digit)) ⟨_, whole⟩
  have same := inside.eq_of_length_le notLonger
  rw [← same] at whole
  exact Prod.ext same.symm (List.append_cancel_left whole)

/-- What is taken as a number is the longest lexeme at its place. -/
theorem longestIn_of_spanNumber
    {literal text rest : Text}
    (isLiteral : IsLiteral literal)
    (taken : spanNumber text = (literal, rest)) :
    (Lexeme.number literal isLiteral).LongestIn text := by
  intro other starts
  cases other with
  | number longer isLonger =>
      have inside := isLonger.prefix_spanNumber starts
      rw [taken] at inside
      exact inside.length_le
  | name path isPath =>
      exfalso
      have whole := spanNumber_append text
      rw [taken] at whole
      obtain ⟨c, behind, rfl, begins⟩ := isLiteral.exists_cons
      obtain rfl := whole
      cases isPath with
      | mk leads _ =>
          obtain ⟨rfl, -⟩ := List.cons_prefix_cons.1 starts
          exact not_leads begins leads
  | operator | opening | closing =>
      exact (Lexeme.number literal isLiteral).length_text_pos

/-- The longest name at its place is what is taken. -/
theorem span_isPathChar_of_longestIn
    {path rest : Text}
    {isPath : IsPath path}
    (longest : (Lexeme.name path isPath).LongestIn (path ++ rest)) :
    (path ++ rest).span isPathChar = (path, rest) := by
  have named : ∀ c ∈ path, isPathChar c = true := fun c => isPath.isPathChar_of_mem
  have longer : IsPath (path ++ rest.takeWhile isPathChar) := by
    cases isPath with
    | mk leads behind =>
        refine .mk leads fun d member => ?_
        rcases List.mem_append.1 member with inPath | inRest
        · exact behind d inPath
        · exact List.mem_takeWhile_imp inRest
  have starts : path ++ rest.takeWhile isPathChar <+: path ++ rest :=
    (List.prefix_append_right_inj path).2 (List.takeWhile_prefix _)
  have notLonger := longest (.name _ longer) starts
  have nothing : rest.takeWhile isPathChar = [] := by
    change (path ++ rest.takeWhile isPathChar).length ≤ path.length at notLonger
    rw [List.length_append] at notLonger
    exact List.length_eq_zero_iff.1 (by omega)
  have left : rest.dropWhile isPathChar = rest := by
    have whole : rest.takeWhile isPathChar ++ rest.dropWhile isPathChar = rest :=
      List.takeWhile_append_dropWhile
    rwa [nothing, List.nil_append] at whole
  rw [List.span_eq_takeWhile_dropWhile, List.takeWhile_append_of_pos named,
    List.dropWhile_append_of_pos named, nothing, left, List.append_nil]

/-- What is taken as a name is the longest lexeme at its place. -/
theorem longestIn_of_span_isPathChar
    {path text rest : Text}
    (isPath : IsPath path)
    (taken : text.span isPathChar = (path, rest)) :
    (Lexeme.name path isPath).LongestIn text := by
  rw [List.span_eq_takeWhile_dropWhile] at taken
  intro other starts
  by_cases word : other.IsWord
  · obtain ⟨behind, rfl⟩ := starts
    have inside : other.text <+: (other.text ++ behind).takeWhile isPathChar := by
      rw [List.takeWhile_append_of_pos fun c member => Lexeme.isPathChar_of_mem word member]
      exact List.prefix_append _ _
    rw [(Prod.mk.inj taken).1] at inside
    exact inside.length_le
  · obtain ⟨c, single, -⟩ := Lexeme.exists_separator word
    rw [single]
    exact (Lexeme.name path isPath).length_text_pos

namespace Lexes

variable {text between rest : Text} {lexemes others : List Lexeme}

/-- The first lexeme stands behind the blanks. -/
theorem cons_iff {lexeme : Lexeme} :
    Lexes text (lexeme :: lexemes) rest ↔
      ∃ behind, Text.trimStart text = lexeme.text ++ behind ∧
        lexeme.LongestIn (lexeme.text ++ behind) ∧ Lexes behind lexemes rest := by
  constructor
  · intro lexed
    cases lexed with
    | @cons blanks behind _ _ _ blank longest others =>
        refine ⟨behind, ?_, longest, others⟩
        rw [Text.trimStart_blanks blank, lexeme.trimStart_append]
  · rintro ⟨behind, trimmed, longest, others⟩
    obtain ⟨blanks, blank, same⟩ := Text.exists_blanks text
    rw [same, trimmed]
    exact .cons blank longest others

/-- A symbol is at the start of a text behind the blanks. -/
theorem cons_symbol
    (symbol : Lexeme)
    (isSymbol : ¬ symbol.IsWord)
    (trimmed : Text.trimStart text = symbol.text ++ between)
    (others : Lexes between lexemes rest) :
    Lexes text (symbol :: lexemes) rest :=
  cons_iff.2 ⟨between, trimmed, Lexeme.longestIn_of_symbol isSymbol between, others⟩

theorem append
    (lexed : Lexes text lexemes between)
    (behind : Lexes between others rest) :
    Lexes text (lexemes ++ others) rest := by
  induction lexed with
  | nil => exact behind
  | cons blank longest _ inductionHypothesis =>
      exact .cons blank longest (inductionHypothesis behind)

theorem exists_between
    (lexed : Lexes text (lexemes ++ others) rest) :
    ∃ between, Lexes text lexemes between ∧ Lexes between others rest := by
  induction lexemes generalizing text with
  | nil => exact ⟨text, .nil, lexed⟩
  | cons lexeme lexemes inductionHypothesis =>
      cases lexed with
      | cons blank longest behind =>
          obtain ⟨between, first, second⟩ := inductionHypothesis behind
          exact ⟨between, .cons blank longest first, second⟩

theorem length_le (lexed : Lexes text lexemes rest) : rest.length ≤ text.length := by
  induction lexed with
  | nil => exact le_rfl
  | cons _ _ _ inductionHypothesis =>
      simp only [List.length_append]
      omega

/-- A text of blanks has no lexemes. -/
theorem eq_nil_of_blank
    (lexed : Lexes text lexemes rest)
    (blank : ∀ c ∈ text, isBlank c = true) :
    lexemes = [] := by
  cases lexemes with
  | nil => rfl
  | cons lexeme lexemes =>
      obtain ⟨behind, trimmed, -, -⟩ := cons_iff.1 lexed
      rw [Text.trimStart_eq_nil_iff.2 blank] at trimmed
      exact absurd (List.append_eq_nil_iff.1 trimmed.symm).1 lexeme.text_ne_nil

/-- Every text has its lexemes in one way only. -/
theorem lexemes_unique
    (lexed : Lexes text lexemes between)
    (blank : ∀ c ∈ between, isBlank c = true)
    (otherLexed : Lexes text others rest)
    (otherBlank : ∀ c ∈ rest, isBlank c = true) :
    lexemes = others := by
  induction lexemes generalizing text others with
  | nil =>
      cases lexed
      exact (otherLexed.eq_nil_of_blank blank).symm
  | cons lexeme lexemes inductionHypothesis =>
      cases others with
      | nil =>
          cases otherLexed
          exact lexed.eq_nil_of_blank otherBlank
      | cons other others =>
          obtain ⟨behind, trimmed, longest, lexed⟩ := cons_iff.1 lexed
          obtain ⟨otherBehind, otherTrimmed, otherLongest, otherLexed⟩ := cons_iff.1 otherLexed
          have same := trimmed.symm.trans otherTrimmed
          have notLonger := longest other ⟨otherBehind, same.symm⟩
          have notShorter := otherLongest lexeme ⟨behind, same⟩
          obtain ⟨sameText, rfl⟩ :=
            List.append_inj same (Nat.le_antisymm notShorter notLonger)
          rw [Lexeme.text_injective sameText, inductionHypothesis lexed otherLexed]

end Lexes

namespace Lexeme

/-- A symbol keeps what stands on its two sides apart. -/
theorem isChain_apart_symbol
    {lexemes others : List Lexeme}
    {symbol : Lexeme}
    (isSymbol : ¬ symbol.IsWord) :
    (lexemes ++ symbol :: others).IsChain Apart ↔
      lexemes.IsChain Apart ∧ others.IsChain Apart := by
  have before (lexeme : Lexeme) : Apart lexeme symbol := fun _ => isSymbol
  have behind (lexeme : Lexeme) : Apart symbol lexeme := fun word => absurd word isSymbol
  rw [List.isChain_append, List.isChain_cons]
  constructor
  · rintro ⟨first, ⟨-, second⟩, -⟩
    exact ⟨first, second⟩
  · rintro ⟨first, second⟩
    refine ⟨first, ⟨fun lexeme _ => behind lexeme, second⟩, fun lexeme _ next isNext => ?_⟩
    obtain rfl := Option.some.inj isNext
    exact before lexeme

theorem isChain_apart_cons
    {symbol : Lexeme}
    {others : List Lexeme}
    (isSymbol : ¬ symbol.IsWord) :
    (symbol :: others).IsChain Apart ↔ others.IsChain Apart :=
  (@isChain_apart_symbol [] others symbol isSymbol).trans (and_iff_right List.isChain_nil)

end Lexeme

namespace Spaced

theorem cons_of_trimStart
    {text behind : Text}
    {lexeme : Lexeme}
    {lexemes : List Lexeme}
    (trimmed : Text.trimStart text = lexeme.text ++ behind)
    (others : Spaced behind lexemes) :
    Spaced text (lexeme :: lexemes) := by
  obtain ⟨blanks, blank, same⟩ := Text.exists_blanks text
  rw [same, trimmed]
  exact .cons blank others

/-- Behind a word there is a separator or nothing. -/
theorem isSeparator_head
    {text : Text}
    {lexemes : List Lexeme}
    (spaced : Spaced text lexemes)
    (symbolFirst : ∀ lexeme ∈ lexemes.head?, ¬ lexeme.IsWord) :
    ∀ c ∈ text.head?, IsSeparator c := by
  intro c isHead
  cases spaced with
  | nil blank => exact .inl (blank c (List.mem_of_head? isHead))
  | @cons blanks text lexeme lexemes blank others =>
      cases blanks with
      | nil =>
          obtain ⟨d, single, separates⟩ := Lexeme.exists_separator (symbolFirst lexeme rfl)
          rw [single] at isHead
          obtain rfl := Option.some.inj isHead
          exact separates
      | cons d blanks =>
          obtain rfl := Option.some.inj isHead
          exact .inl (blank d List.mem_cons_self)

/-- Where no two words stand side by side, every lexeme is the longest at its place. -/
theorem lexes
    {text : Text}
    {lexemes : List Lexeme}
    (spaced : Spaced text lexemes)
    (apart : lexemes.IsChain Lexeme.Apart) :
    ∃ blanks, Lexes text lexemes blanks ∧ ∀ c ∈ blanks, isBlank c = true := by
  induction spaced with
  | nil blank => exact ⟨_, .nil, blank⟩
  | @cons blanks text lexeme lexemes blank others inductionHypothesis =>
      obtain ⟨separate, apart⟩ := List.isChain_cons.1 apart
      obtain ⟨rest, lexed, restBlank⟩ := inductionHypothesis apart
      refine ⟨rest, .cons blank ?_ lexed, restBlank⟩
      by_cases word : lexeme.IsWord
      · exact Lexeme.longestIn_of_separated word
          (others.isSeparator_head fun next isNext => separate next isNext word)
      · exact Lexeme.longestIn_of_symbol word text

end Spaced

/-- Lexemes that are the longest at their place are lexemes with blanks between them. -/
theorem Lexes.spaced
    {text rest : Text}
    {lexemes : List Lexeme}
    (lexed : Lexes text lexemes rest)
    (blank : ∀ c ∈ rest, isBlank c = true) :
    Spaced text lexemes := by
  induction lexed with
  | nil => exact .nil blank
  | cons blanks _ _ inductionHypothesis => exact .cons blanks (inductionHypothesis blank)

end Expression
end CharacterSheet
