import CharacterSheet.Proofs.Notation.Content
import CharacterSheet.Proofs.Notation.ExpressionGrammar

/-!
# Operands in parentheses

Parentheses are balanced in whatever derives an expression, so what stands between two of them
that belong together is an operand of its own. It can be replaced by any other expression, and
what holds of two operands holds of the whole expressions, if it passes through signs and
operations (`Passes`, `parse_replaced`).
-/

namespace CharacterSheet
namespace Expression

/-- How many parentheses are open behind lexemes. -/
def depth : List Lexeme → Int
  | [] => 0
  | .opening :: lexemes => 1 + depth lexemes
  | .closing :: lexemes => -1 + depth lexemes
  | _ :: lexemes => depth lexemes

@[simp] theorem depth_append (lexemes others : List Lexeme) :
    depth (lexemes ++ others) = depth lexemes + depth others := by
  induction lexemes with
  | nil => simp [depth]
  | cons lexeme lexemes inductionHypothesis =>
      cases lexeme <;> simp [depth, inductionHypothesis, Int.add_assoc]

@[simp] theorem depth_opening (lexemes : List Lexeme) :
    depth (.opening :: lexemes) = 1 + depth lexemes := rfl

@[simp] theorem depth_closing (lexemes : List Lexeme) :
    depth (.closing :: lexemes) = -1 + depth lexemes := rfl

@[simp] theorem depth_operator (op : Operator) (lexemes : List Lexeme) :
    depth (.operator op :: lexemes) = depth lexemes := rfl

/-- Every parenthesis belongs to another one. -/
structure Matched (lexemes : List Lexeme) : Prop where
  closed : depth lexemes = 0
  opened : ∀ {before after}, lexemes = before ++ after → 0 ≤ depth before

namespace Matched

variable {lexemes others : List Lexeme}

theorem word
    {word : Lexeme}
    (flat : depth [word] = 0) :
    Matched [word] where
  closed := flat
  opened := by
    intro before after same
    rcases List.singleton_eq_append_iff.1 same with ⟨rfl, -⟩ | ⟨rfl, -⟩
    · exact Int.le_refl _
    · exact Int.le_of_eq flat.symm

theorem signed
    {op : Operator}
    (matched : Matched lexemes) :
    Matched (.operator op :: lexemes) where
  closed := matched.closed
  opened := by
    intro before after whole
    rcases List.cons_eq_append_iff.1 whole with ⟨rfl, -⟩ | ⟨before, rfl, same⟩
    · exact Int.le_refl _
    · rw [depth_operator]
      exact matched.opened same

theorem enclosed (matched : Matched lexemes) :
    Matched (.opening :: (lexemes ++ [.closing])) where
  closed := by simp [matched.closed, depth]
  opened := by
    intro before after whole
    rcases List.cons_eq_append_iff.1 whole with ⟨rfl, -⟩ | ⟨before, rfl, same⟩
    · exact Int.le_refl _
    · rcases List.append_eq_append_iff.1 same with ⟨more, rfl, last⟩ | ⟨more, rfl, -⟩
      · rcases List.singleton_eq_append_iff.1 last with ⟨rfl, -⟩ | ⟨rfl, -⟩ <;>
          simp [matched.closed, depth]
      · have := matched.opened rfl
        simp
        omega

theorem joined
    {op : Operator}
    (left : Matched lexemes)
    (right : Matched others) :
    Matched (lexemes ++ .operator op :: others) where
  closed := by simp [left.closed, right.closed]
  opened := by
    intro before after whole
    rcases List.append_eq_append_iff.1 whole with ⟨more, rfl, same⟩ | ⟨more, rfl, -⟩
    · rw [depth_append, left.closed, Int.zero_add]
      exact (signed right).opened same
    · exact left.opened rfl

end Matched

/-- Derivations match their parentheses. -/
theorem Derives.matched
    {level : Level}
    {lexemes : List Lexeme}
    {expression : Expression}
    (derives : Derives level lexemes expression) :
    Matched lexemes := by
  induction derives with
  | number | name => exact .word rfl
  | negative _ factor | positive _ factor => exact factor.signed
  | enclosed _ sum => exact sum.enclosed
  | ofFactor _ matched | ofProduct _ matched => exact matched
  | multiplied _ _ _ left right | added _ _ _ left right => exact left.joined right

/-- Any lexemes that are kept apart are those of a text. -/
theorem exists_lexes
    {lexemes : List Lexeme}
    (apart : lexemes.IsChain Lexeme.Apart) :
    ∃ text blanks, Lexes text lexemes blanks ∧ ∀ c ∈ blanks, isBlank c = true := by
  have spaced : ∃ text, Spaced text lexemes := by
    clear apart
    induction lexemes with
    | nil => exact ⟨[], .nil (by simp)⟩
    | cons lexeme lexemes inductionHypothesis =>
        obtain ⟨text, spaced⟩ := inductionHypothesis
        exact ⟨_, .cons (List.forall_mem_nil _) spaced⟩
  obtain ⟨text, spaced⟩ := spaced
  exact ⟨text, spaced.lexes apart⟩

/-- Lexemes derive one sum only. -/
theorem Derives.unique
    {lexemes : List Lexeme}
    {first second : Expression}
    (one : Derives .sum lexemes first)
    (other : Derives .sum lexemes second) :
    first = second := by
  obtain ⟨text, blanks, lexed, blank⟩ := exists_lexes one.isChain_apart
  have same := (one.readSum_eq [] lexed blank).symm.trans (other.readSum_eq [] lexed blank)
  exact (Prod.mk.inj (Except.ok.inj same)).1

/-- A relation between expressions that passes through signs and operations. -/
structure Passes (related : Expression → Expression → Prop) : Prop where
  negative {inner other : Expression} :
    related inner other → related (.negative inner) (.negative other)
  left {op : Operator} {left other right : Expression} :
    related left other → related (.binary op left right) (.binary op other right)
  right {op : Operator} {left right other : Expression} :
    related right other → related (.binary op left right) (.binary op left other)

section Replace

variable {related : Expression → Expression → Prop}
  {operand replacement : List Lexeme} {inner other : Expression}

/-- In place of the operand in parentheses another one can stand, and the whole is related. -/
def Replaceable
    (related : Expression → Expression → Prop)
    (operand replacement : List Lexeme)
    (level : Level)
    (lexemes : List Lexeme)
    (whole : Expression) : Prop :=
  ∀ {before after}, lexemes = before ++ .opening :: (operand ++ .closing :: after) →
    ∃ changed, Derives level (before ++ .opening :: (replacement ++ .closing :: after)) changed ∧
      related whole changed

/-- The operand stands in one of the two sides of an operation. -/
theorem operand_left_or_right
    {left right before after : List Lexeme}
    {op : Operator}
    (matched : Matched left)
    (operandMatched : Matched operand)
    (same : left ++ .operator op :: right = before ++ .opening :: (operand ++ .closing :: after)) :
    (∃ rest, left = before ++ .opening :: (operand ++ .closing :: rest) ∧
        after = rest ++ .operator op :: right) ∨
      ∃ start, before = left ++ .operator op :: start ∧
        right = start ++ .opening :: (operand ++ .closing :: after) := by
  rcases List.append_eq_append_iff.1 same with ⟨more, rfl, behind⟩ | ⟨more, rfl, behind⟩
  · rcases List.cons_eq_append_iff.1 behind with ⟨-, head⟩ | ⟨start, rfl, rest⟩
    · cases head
    · exact .inr ⟨start, rfl, rest⟩
  · rcases List.cons_eq_append_iff.1 behind with ⟨-, head⟩ | ⟨inside, rfl, opened⟩
    · cases head
    · rcases List.append_eq_append_iff.1 opened with ⟨tail, rfl, last⟩ | ⟨part, rfl, -⟩
      · rcases List.cons_eq_append_iff.1 last with ⟨-, head⟩ | ⟨rest, rfl, closed⟩
        · cases head
        · exact .inl ⟨rest, rfl, closed⟩
      · -- a part of the operand cannot close the parenthesis before it
        exfalso
        have beforeOpened := matched.opened rfl
        have partOpened := operandMatched.opened rfl
        have closed := matched.closed
        simp only [depth_append, depth_opening] at closed
        omega

/-- The operand stands in a signed factor behind the sign. -/
theorem Replaceable.signed
    {op : Operator}
    {lexemes : List Lexeme}
    {inner whole : Expression}
    (factor : Replaceable related operand replacement .factor lexemes inner)
    (sign : ∀ {lexemes changed}, Derives .factor lexemes changed → related inner changed →
      ∃ signed, Derives .factor (.operator op :: lexemes) signed ∧ related whole signed) :
    Replaceable related operand replacement .factor (.operator op :: lexemes) whole := by
  intro before after same
  rcases List.cons_eq_append_iff.1 same with ⟨-, head⟩ | ⟨start, rfl, behind⟩
  · cases head
  · obtain ⟨changed, derives, relates⟩ := factor behind
    exact sign derives relates

/-- The operand is the sum in parentheses, or it stands in that. -/
theorem Replaceable.enclosed
    {lexemes : List Lexeme}
    {whole : Expression}
    (derives : Derives .sum lexemes whole)
    (sum : Replaceable related operand replacement .sum lexemes whole)
    (operandDerives : Derives .sum operand inner)
    (replacementDerives : Derives .sum replacement other)
    (relates : related inner other) :
    Replaceable related operand replacement .factor (.opening :: (lexemes ++ [.closing]))
      whole := by
  intro before after same
  have matched := derives.matched
  have operandClosed := operandDerives.matched.closed
  rcases List.cons_eq_append_iff.1 same with ⟨rfl, head⟩ | ⟨start, rfl, behind⟩
  · obtain ⟨-, inside⟩ := List.cons.inj head
    cases after using List.reverseRecOn with
    | nil =>
        obtain ⟨rfl, -⟩ := List.append_inj' inside.symm rfl
        obtain rfl := derives.unique operandDerives
        exact ⟨other, replacementDerives.enclosed, relates⟩
    | append_singleton after last =>
        -- the parenthesis behind the operand would be closed twice
        exfalso
        have parts : lexemes ++ [.closing] = (operand ++ .closing :: after) ++ [last] := by
          simpa using inside.symm
        obtain ⟨rfl, -⟩ := List.append_inj' parts rfl
        have opened := matched.opened (List.append_cons operand .closing after)
        simp [operandClosed, depth] at opened
  · cases after using List.reverseRecOn with
    | nil =>
        -- the parenthesis before the operand would not be closed
        exfalso
        have parts : lexemes ++ [.closing] = (start ++ .opening :: operand) ++ [.closing] := by
          simpa using behind
        obtain ⟨rfl, -⟩ := List.append_inj' parts rfl
        have opened := matched.opened rfl
        have closed := matched.closed
        simp only [depth_append, depth_opening] at closed
        omega
    | append_singleton after last =>
        have parts : lexemes ++ [.closing] =
            (start ++ .opening :: (operand ++ .closing :: after)) ++ [last] := by
          simpa using behind
        obtain ⟨rfl, single⟩ := List.append_inj' parts rfl
        obtain ⟨changed, changedDerives, changedRelates⟩ := sum rfl
        refine ⟨changed, ?_, changedRelates⟩
        rw [← single]
        simpa using changedDerives.enclosed

/-- The operand stands on one side of an operation. -/
theorem Replaceable.joined
    {level rightLevel : Level}
    {lexemes others : List Lexeme}
    {left right : Expression}
    {op : Operator}
    (passes : Passes related)
    (leftDerives : Derives level lexemes left)
    (rightDerives : Derives rightLevel others right)
    (join : ∀ {lexemes others left right}, Derives level lexemes left →
      Derives rightLevel others right →
      Derives level (lexemes ++ .operator op :: others) (.binary op left right))
    (leftReplaceable : Replaceable related operand replacement level lexemes left)
    (rightReplaceable : Replaceable related operand replacement rightLevel others right)
    (operandMatched : Matched operand) :
    Replaceable related operand replacement level (lexemes ++ .operator op :: others)
      (.binary op left right) := by
  intro before after same
  rcases operand_left_or_right leftDerives.matched operandMatched same with
    ⟨rest, found, rfl⟩ | ⟨start, rfl, found⟩
  · obtain ⟨changed, derives, relates⟩ := leftReplaceable found
    exact ⟨_, by simpa using join derives rightDerives, passes.left relates⟩
  · obtain ⟨changed, derives, relates⟩ := rightReplaceable found
    exact ⟨_, by simpa using join leftDerives derives, passes.right relates⟩

/-- Wherever an operand stands in parentheses, another one can stand. -/
theorem Derives.replaceable
    {level : Level}
    {lexemes : List Lexeme}
    {whole : Expression}
    (derives : Derives level lexemes whole)
    (passes : Passes related)
    (operandDerives : Derives .sum operand inner)
    (replacementDerives : Derives .sum replacement other)
    (relates : related inner other) :
    Replaceable related operand replacement level lexemes whole := by
  have operandMatched := operandDerives.matched
  induction derives with
  | number | name =>
      intro before after same
      rcases List.singleton_eq_append_iff.1 same with ⟨-, head⟩ | ⟨-, head⟩ <;> cases head
  | negative _ factor =>
      exact factor.signed fun derives relates => ⟨_, .negative derives, passes.negative relates⟩
  | positive _ factor =>
      exact factor.signed fun derives relates => ⟨_, .positive derives, relates⟩
  | enclosed derives sum =>
      exact Replaceable.enclosed derives sum operandDerives replacementDerives relates
  | ofFactor _ factor =>
      intro before after same
      obtain ⟨changed, derives, relates⟩ := factor same
      exact ⟨changed, .ofFactor derives, relates⟩
  | multiplied product isProduct factor left right =>
      exact Replaceable.joined passes product factor
        (fun first second => .multiplied first isProduct second) left right operandMatched
  | ofProduct _ product =>
      intro before after same
      obtain ⟨changed, derives, relates⟩ := product same
      exact ⟨changed, .ofProduct derives, relates⟩
  | added sum isSum product left right =>
      exact Replaceable.joined passes sum product (fun first second => .added first isSum second)
        left right operandMatched

end Replace

namespace Spaced

variable {text left right : Text} {lexemes others : List Lexeme}

theorem blanks_append
    {blanks : Text}
    (blank : ∀ c ∈ blanks, isBlank c = true)
    (spaced : Spaced text lexemes) :
    Spaced (blanks ++ text) lexemes := by
  cases spaced with
  | nil textBlank =>
      exact .nil fun c member => (List.mem_append.1 member).elim (blank c) (textBlank c)
  | cons textBlank others =>
      rw [← List.append_assoc]
      exact .cons (fun c member => (List.mem_append.1 member).elim (blank c) (textBlank c)) others

theorem append
    (first : Spaced left lexemes)
    (second : Spaced right others) :
    Spaced (left ++ right) (lexemes ++ others) := by
  induction first with
  | nil blank => exact second.blanks_append blank
  | cons blank _ inductionHypothesis =>
      simpa using cons blank inductionHypothesis

/-- The character of a symbol is in no other lexeme. -/
theorem eq_of_mem
    {symbol lexeme : Lexeme}
    {c : Char}
    (isSymbol : ¬ symbol.IsWord)
    (single : symbol.text = [c])
    (member : c ∈ lexeme.text) :
    lexeme = symbol := by
  by_cases word : lexeme.IsWord
  · obtain ⟨d, same, separates⟩ := Lexeme.exists_separator isSymbol
    obtain ⟨rfl, -⟩ := List.cons.inj (single.symm.trans same)
    have named := Lexeme.isPathChar_of_mem word member
    rw [separates.not_isPathChar] at named
    cases named
  · obtain ⟨d, same, -⟩ := Lexeme.exists_separator word
    rw [same, List.mem_singleton] at member
    exact Lexeme.text_injective (by rw [same, single, member])

/-- A parenthesis is a lexeme wherever it stands, so it parts the lexemes. -/
theorem split
    (symbol : Lexeme)
    {c : Char}
    (isSymbol : ¬ symbol.IsWord)
    (single : symbol.text = [c])
    (spaced : Spaced (left ++ c :: right) lexemes) :
    ∃ before after, lexemes = before ++ symbol :: after ∧
      Spaced left before ∧ Spaced right after := by
  have shown : isBlank c = false := Lexeme.isBlank_of_mem (single ▸ List.mem_singleton_self c)
  have notBlank {blanks : Text} (blank : ∀ c ∈ blanks, isBlank c = true) : c ∉ blanks :=
    fun member => absurd (blank c member) (by simp [shown])
  generalize whole : left ++ c :: right = text at spaced
  induction spaced generalizing left with
  | nil blank => exact absurd (by simp [← whole]) (notBlank blank)
  | @cons blanks text lexeme lexemes blank others inductionHypothesis =>
      -- the parenthesis stands behind the blanks
      obtain ⟨start, rfl, same⟩ : ∃ start, left = blanks ++ start ∧
          lexeme.text ++ text = start ++ c :: right := by
        rcases List.append_eq_append_iff.1 whole with ⟨more, rfl, same⟩ | ⟨more, rfl, same⟩
        · rcases List.cons_eq_append_iff.1 same with ⟨rfl, same⟩ | ⟨more, rfl, -⟩
          · exact ⟨[], by simp, same.symm⟩
          · exact absurd (by simp) (notBlank blank)
        · exact ⟨more, rfl, same⟩
      rcases List.append_eq_append_iff.1 same with ⟨rest, rfl, behind⟩ | ⟨rest, inside, behind⟩
      · obtain ⟨before, after, rfl, first, second⟩ := inductionHypothesis behind.symm
        exact ⟨lexeme :: before, after, rfl, .cons blank first, second⟩
      · rcases List.cons_eq_append_iff.1 behind with ⟨rfl, behind⟩ | ⟨rest, rfl, behind⟩
        · obtain ⟨before, after, rfl, first, second⟩ :=
            @inductionHypothesis [] (by simpa using behind)
          obtain rfl : lexeme.text = start := by simpa using inside
          exact ⟨lexeme :: before, after, rfl, by simpa using cons blank first, second⟩
        · obtain rfl := eq_of_mem isSymbol single (by simp [inside] : c ∈ lexeme.text)
          rw [single] at inside
          obtain ⟨rfl, rfl⟩ : start = [] ∧ rest = [] := by
            cases start with
            | nil => simpa using inside
            | cons d start => simp at inside
          obtain rfl : right = text := by simpa using behind
          exact ⟨[], lexemes, rfl, by simpa using nil blank, others⟩

/-- Blanks at the end belong to no lexeme. -/
theorem dropLast
    {c : Char}
    (blank : isBlank c = true)
    (spaced : Spaced (text ++ [c]) lexemes) :
    Spaced text lexemes := by
  generalize whole : text ++ [c] = padded at spaced
  induction spaced generalizing text with
  | nil padding => exact .nil fun d member => padding d (by simp [← whole, member])
  | @cons blanks rest lexeme lexemes padding others inductionHypothesis =>
      cases rest using List.reverseRecOn with
      | nil =>
          -- no lexeme ends in a blank
          exfalso
          have last : c ∈ lexeme.text := by
            have inLast := congrArg List.getLast? whole
            rw [List.append_nil, List.getLast?_append_of_ne_nil _ lexeme.text_ne_nil,
              List.getLast?_append_of_ne_nil _ (List.cons_ne_nil _ _)] at inLast
            exact List.mem_of_getLast? inLast.symm
          rw [Lexeme.isBlank_of_mem last] at blank
          cases blank
      | append_singleton rest d =>
          have parts : text ++ [c] = (blanks ++ (lexeme.text ++ rest)) ++ [d] := by
            simpa using whole
          obtain ⟨rfl, same⟩ := List.append_inj' parts rfl
          exact .cons padding (inductionHypothesis (by rw [same]))

/-- What stands between lexemes separates them, and they hold nothing but words and symbols. -/
theorem isSeparator_or_isPathChar
    (spaced : Spaced text lexemes)
    {c : Char}
    (member : c ∈ text) :
    IsSeparator c ∨ isPathChar c = true := by
  induction spaced with
  | nil blank => exact .inl (.inl (blank c member))
  | @cons blanks text lexeme lexemes blank _ inductionHypothesis =>
      rw [List.mem_append, List.mem_append] at member
      rcases member with inBlanks | inLexeme | behind
      · exact .inl (.inl (blank c inBlanks))
      · by_cases word : lexeme.IsWord
        · exact .inr (Lexeme.isPathChar_of_mem word inLexeme)
        · obtain ⟨d, single, separates⟩ := Lexeme.exists_separator word
          rw [single, List.mem_singleton] at inLexeme
          exact .inl (inLexeme ▸ separates)
      · exact inductionHypothesis behind

end Spaced

theorem plainMinus_append (left right : Text) :
    Text.plainMinus (left ++ right) = Text.plainMinus left ++ Text.plainMinus right :=
  List.map_append

/-- A text with an operand in parentheses. -/
def enclosed (start operand rest : Text) : Text := start ++ '(' :: (operand ++ ')' :: rest)

theorem enclosed_eq_append (start operand rest : Text) :
    enclosed start operand rest = (start ++ ['(']) ++ (operand ++ ')' :: rest) := by
  rw [enclosed, List.append_assoc]
  rfl

theorem isPlain_enclosed_iff {start operand rest : Text} :
    (enclosed start operand rest).IsPlain ↔ start.IsPlain ∧ operand.IsPlain ∧ rest.IsPlain := by
  simp [enclosed, Text.IsPlain, or_imp, forall_and]
  tauto

theorem trimEnd_enclosed (start operand rest : Text) :
    Text.trimEnd (enclosed start operand rest) = enclosed start operand (Text.trimEnd rest) := by
  rw [enclosed_eq_append, ← List.append_assoc, Text.trimEnd_append_cons (by decide),
    List.append_assoc, ← enclosed_eq_append]

/-- What holds parentheses but no comma is one argument. -/
theorem count_enclosed
    {start operand rest : Text}
    (absent : ',' ∉ enclosed start operand rest) :
    Arguments.count (enclosed start operand rest) = 1 :=
  Arguments.count_eq_one (c := '(') absent (by simp [enclosed]) (by decide)

theorem plainMinus_enclosed (start operand rest : Text) :
    Text.plainMinus (enclosed start operand rest) =
      enclosed (Text.plainMinus start) (Text.plainMinus operand) (Text.plainMinus rest) := by
  rw [enclosed, plainMinus_append]
  change _ ++ '(' :: Text.plainMinus (operand ++ ')' :: rest) = _
  rw [plainMinus_append]
  rfl

/-- Expressions consist of words, separators and the typographic minus. So they hold neither
braces nor commas. -/
theorem isPlain_of_parse
    {text : Text}
    {expression : Expression}
    (parsed : parse text = .ok expression) :
    text.IsPlain := by
  obtain ⟨lexemes, spaced, -⟩ := parse_eq_ok_iff_spaced.1 parsed
  intro c member
  by_cases minus : c = Text.minusSign
  · rw [minus]
    decide
  · have kept : c ∈ Text.plainMinus text := List.mem_map.2 ⟨c, member, by simp [minus]⟩
    refine ⟨?_, ?_, ?_⟩ <;>
      · rintro rfl
        exact absurd (spaced.isSeparator_or_isPathChar kept) (by decide)

/-- Blanks at the end do not matter. -/
theorem parse_trimEnd
    {text : Text}
    {expression : Expression}
    (parsed : parse text = .ok expression) :
    parse (Text.trimEnd text) = .ok expression := by
  rw [parse_eq_ok_iff_spaced] at parsed ⊢
  obtain ⟨lexemes, spaced, derives⟩ := parsed
  refine ⟨lexemes, ?_, derives⟩
  change Spaced (Text.plainMinus (text.rdropWhile isBlank)) lexemes
  induction text using List.reverseRecOn with
  | nil => exact spaced
  | append_singleton text c inductionHypothesis =>
      by_cases blank : isBlank c = true
      · rw [List.rdropWhile_concat_pos _ _ _ blank]
        refine inductionHypothesis (Spaced.dropLast (c := c) blank ?_)
        have notMinus : c ≠ Text.minusSign := by
          rintro rfl
          cases blank
        simpa [plainMinus_append, Text.plainMinus, notMinus] using spaced
      · rwa [List.rdropWhile_concat_neg _ _ _ blank]

/-- An expression is one argument. -/
theorem count_eq_one_of_parse
    {text : Text}
    {expression : Expression}
    (parsed : parse text = .ok expression) :
    Arguments.count text = 1 := by
  have shown : ∃ c ∈ text, isBlank c = false := by
    by_contra none
    have blank : Text.trimEnd text = [] :=
      List.rdropWhile_eq_nil_iff.2 fun c member => by
        simpa using fun shown => none ⟨c, member, shown⟩
    have nothing := parse_trimEnd parsed
    rw [blank] at nothing
    cases nothing
  obtain ⟨c, member, shown⟩ := shown
  exact Arguments.count_eq_one (isPlain_of_parse parsed).comma_not_mem member shown

/-- An operand in parentheses can be replaced in the text by any other expression. -/
theorem parse_replaced
    {related : Expression → Expression → Prop}
    (passes : Passes related)
    {start operand replacement rest : Text}
    {inner other whole : Expression}
    (operandParsed : parse operand = .ok inner)
    (replacementParsed : parse replacement = .ok other)
    (relates : related inner other)
    (parsed : parse (enclosed start operand rest) = .ok whole) :
    ∃ changed, parse (enclosed start replacement rest) = .ok changed ∧
      related whole changed := by
  obtain ⟨lexemes, spaced, derives⟩ := parse_eq_ok_iff_spaced.1 parsed
  obtain ⟨operandLexemes, operandSpaced, operandDerives⟩ :=
    parse_eq_ok_iff_spaced.1 operandParsed
  obtain ⟨replacementLexemes, replacementSpaced, replacementDerives⟩ :=
    parse_eq_ok_iff_spaced.1 replacementParsed
  rw [plainMinus_enclosed] at spaced
  obtain ⟨before, behind, rfl, beforeSpaced, behindSpaced⟩ :=
    spaced.split .opening id rfl
  obtain ⟨between, after, rfl, betweenSpaced, afterSpaced⟩ :=
    behindSpaced.split .closing id rfl
  -- the operand has the same lexemes inside the whole as alone
  obtain rfl : between = operandLexemes := by
    have apart := (Lexeme.isChain_apart_symbol id).1 derives.isChain_apart
    obtain ⟨blanks, lexed, blank⟩ :=
      betweenSpaced.lexes ((Lexeme.isChain_apart_symbol id).1 apart.2).1
    obtain ⟨otherBlanks, otherLexed, otherBlank⟩ :=
      operandSpaced.lexes operandDerives.isChain_apart
    exact lexed.lexemes_unique blank otherLexed otherBlank
  obtain ⟨changed, changedDerives, changedRelates⟩ :=
    derives.replaceable passes operandDerives replacementDerives relates rfl
  refine ⟨changed, parse_eq_ok_iff_spaced.2 ⟨_, ?_, changedDerives⟩, changedRelates⟩
  rw [plainMinus_enclosed]
  have closing := replacementSpaced.append (.cons (List.forall_mem_nil _) afterSpaced
    : Spaced ([] ++ (Lexeme.closing.text ++ _)) _)
  exact beforeSpaced.append (.cons (List.forall_mem_nil _) closing
    : Spaced ([] ++ (Lexeme.opening.text ++ _)) _)

end Expression
end CharacterSheet
