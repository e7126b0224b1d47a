import CharacterSheet.Proofs.Notation.Lexeme
import CharacterSheet.Proofs.Success
import Mathlib.Data.List.DropRight

/-!
# The grammar of expressions

Expressions are sums of products of factors (`Derives`), and a derivation fixes the tree: sums
and products group to the left. What the readers accept is derived from the lexemes that they
passed (`derives_of_parse`), and where the lexemes of a text have a derivation, the readers
follow it and have fuel left (`Derives.followed`). So a text is an expression exactly if its
lexemes, each as long as possible, derive a sum (`parse_follows_grammar`). A formula that is
written with the parentheses its operations need, and any blanks, is read back.
-/

namespace CharacterSheet

namespace Expression

/-- How far an expression reaches: a factor is a product, and a product is a sum. -/
inductive Level
  | factor
  | product
  | sum
  deriving DecidableEq

end Expression

namespace Operator

/-- The level of the expressions that an operation makes. -/
def level : Operator → Expression.Level
  | .add | .sub => .sum
  | .mul | .div => .product

theorem sum?_eq_some_iff
    {c : Char}
    {op : Operator} :
    sum? c = some op ↔ c = op.symbol ∧ op.level = .sum := by
  constructor
  · intro writes
    unfold sum? at writes
    split at writes <;> cases writes <;> exact ⟨rfl, rfl⟩
  · rintro ⟨rfl, isSum⟩
    cases op <;> first | rfl | cases isSum

theorem product?_eq_some_iff
    {c : Char}
    {op : Operator} :
    product? c = some op ↔ c = op.symbol ∧ op.level = .product := by
  constructor
  · intro writes
    unfold product? at writes
    split at writes <;> cases writes <;> exact ⟨rfl, rfl⟩
  · rintro ⟨rfl, isProduct⟩
    cases op <;> first | rfl | cases isProduct

end Operator

namespace Expression

/-- Digits alone are read as they are. -/
theorem read?_of_digits
    {digits : Text}
    (proper : digits ≠ [])
    (isDigit : ∀ c ∈ digits, c.isDigit = true) :
    DecimalLiteral.read? digits = some ⟨digits, 0⟩ := by
  simp [DecimalLiteral.read?, Digits.spanStart, List.span_eq_takeWhile_dropWhile,
    List.takeWhile_eq_self_iff.2 isDigit, List.dropWhile_eq_nil_iff.2 isDigit, proper]

namespace IsLiteral

variable {literal : Text}

theorem isSome_read? (isLiteral : IsLiteral literal) :
    (DecimalLiteral.read? literal).isSome = true := by
  cases isLiteral with
  | whole proper isDigit => rw [read?_of_digits proper isDigit, Option.isSome_some]
  | @pointed whole places proper isDigit =>
      have inWhole : ∀ c ∈ whole, c.isDigit = true := fun c member =>
        isDigit c (List.mem_append_left _ member)
      have inPlaces : ∀ c ∈ places, c.isDigit = true := fun c member =>
        isDigit c (List.mem_append_right _ member)
      have spanWhole : Digits.spanStart (whole ++ '.' :: places) = (whole, '.' :: places) := by
        rw [Digits.spanStart, List.span_eq_takeWhile_dropWhile,
          List.takeWhile_append_of_pos inWhole, List.dropWhile_append_of_pos inWhole,
          List.takeWhile_cons_of_neg (by decide), List.dropWhile_cons_of_neg (by decide),
          List.append_nil]
      have spanPlaces : Digits.spanStart places = (places, []) := by
        rw [Digits.spanStart, List.span_eq_takeWhile_dropWhile,
          List.takeWhile_eq_self_iff.2 inPlaces, List.dropWhile_eq_nil_iff.2 inPlaces]
      have some : ¬ (whole.isEmpty && places.isEmpty) = true := by simpa using proper
      simp [DecimalLiteral.read?, spanWhole, spanPlaces, some]

/-- A literal has no sign. -/
theorem number?_eq_unsignedNumber? (isLiteral : IsLiteral literal) :
    Text.number? literal = Text.unsignedNumber? literal := by
  obtain ⟨c, text, rfl, begins⟩ := isLiteral.exists_cons
  unfold Text.number?
  split
  · rcases begins with begins | begins <;> simp_all
  · rcases begins with begins | begins <;> simp_all
  · rfl

/-- A literal is no word for a number. -/
theorem unsignedNumber?_eq_read (isLiteral : IsLiteral literal) :
    Text.unsignedNumber? literal =
      (DecimalLiteral.read? literal).map DecimalLiteral.toFloat := by
  obtain ⟨c, text, rfl, begins⟩ := isLiteral.exists_cons
  have lowered : c.toLower = c := by
    rcases begins with begins | rfl
    · unfold Char.isDigit at begins
      unfold Char.toLower
      simp [UInt32.le_iff_toNat_le] at begins ⊢
      omega
    · rfl
  have noWord (word : String)
      (letter : word.toList.head?.all (fun d => !(d.isDigit || d == '.')) = true) :
      String.ofList ((c :: text).map Char.toLower) ≠ word := by
    rintro rfl
    rw [String.toList_ofList, List.map_cons, lowered] at letter
    rcases begins with begins | begins <;> simp [begins] at letter
  rw [Text.unsignedNumber?]
  split
  · next same => exact absurd same (noWord _ rfl)
  · next same => exact absurd same (noWord _ rfl)
  · next same => exact absurd same (noWord _ rfl)
  · rfl

theorem literalNumber?_eq_number? (isLiteral : IsLiteral literal) :
    literalNumber? literal = Text.number? literal := by
  obtain ⟨c, member, digit⟩ := isLiteral.exists_isDigit
  exact if_pos (List.any_eq_true.2 ⟨c, member, digit⟩)

theorem literalNumber?_eq_read (isLiteral : IsLiteral literal) :
    literalNumber? literal = (DecimalLiteral.read? literal).map DecimalLiteral.toFloat := by
  rw [isLiteral.literalNumber?_eq_number?, isLiteral.number?_eq_unsignedNumber?,
    isLiteral.unsignedNumber?_eq_read]

/-- Every literal is the text of a number. -/
theorem isSome_literalNumber? (isLiteral : IsLiteral literal) :
    (literalNumber? literal).isSome = true := by
  rw [isLiteral.literalNumber?_eq_read, Option.isSome_map]
  exact isLiteral.isSome_read?

/-- The number that a literal stands for. -/
def value (isLiteral : IsLiteral literal) : Float :=
  (literalNumber? literal).get isLiteral.isSome_literalNumber?

theorem literalNumber?_eq (isLiteral : IsLiteral literal) :
    literalNumber? literal = some isLiteral.value :=
  (Option.some_get isLiteral.isSome_literalNumber?).symm

theorem unsignedNumber?_eq (isLiteral : IsLiteral literal) :
    Text.unsignedNumber? literal = some isLiteral.value := by
  rw [← isLiteral.number?_eq_unsignedNumber?, ← isLiteral.literalNumber?_eq_number?,
    isLiteral.literalNumber?_eq]

end IsLiteral

/-- Lexemes that make an expression: sums of products of factors, where a factor is a signed
factor, a sum in parentheses, a number or a name. -/
inductive Derives : Level → List Lexeme → Expression → Prop
  | number
      {literal : Text}
      (isLiteral : IsLiteral literal) :
      Derives .factor [.number literal isLiteral] (.number isLiteral.value)
  | name
      {path : Text}
      (isPath : IsPath path) :
      Derives .factor [.name path isPath] (.reference (String.ofList path))
  | negative
      {lexemes : List Lexeme}
      {inner : Expression}
      (factor : Derives .factor lexemes inner) :
      Derives .factor (.operator .sub :: lexemes) (.negative inner)
  | positive
      {lexemes : List Lexeme}
      {inner : Expression}
      (factor : Derives .factor lexemes inner) :
      Derives .factor (.operator .add :: lexemes) inner
  | enclosed
      {lexemes : List Lexeme}
      {inner : Expression}
      (sum : Derives .sum lexemes inner) :
      Derives .factor (.opening :: (lexemes ++ [.closing])) inner
  | ofFactor
      {lexemes : List Lexeme}
      {expression : Expression}
      (factor : Derives .factor lexemes expression) :
      Derives .product lexemes expression
  | multiplied
      {lexemes others : List Lexeme}
      {left right : Expression}
      {op : Operator}
      (product : Derives .product lexemes left)
      (isProduct : op.level = .product)
      (factor : Derives .factor others right) :
      Derives .product (lexemes ++ .operator op :: others) (.binary op left right)
  | ofProduct
      {lexemes : List Lexeme}
      {expression : Expression}
      (product : Derives .product lexemes expression) :
      Derives .sum lexemes expression
  | added
      {lexemes others : List Lexeme}
      {left right : Expression}
      {op : Operator}
      (sum : Derives .sum lexemes left)
      (isSum : op.level = .sum)
      (product : Derives .product others right) :
      Derives .sum (lexemes ++ .operator op :: others) (.binary op left right)

/-- A derivation never puts two words side by side. -/
theorem Derives.isChain_apart
    {level : Level}
    {lexemes : List Lexeme}
    {expression : Expression}
    (derives : Derives level lexemes expression) :
    lexemes.IsChain Lexeme.Apart := by
  induction derives with
  | number | name => exact List.isChain_singleton _
  | negative _ inductionHypothesis | positive _ inductionHypothesis =>
      exact (Lexeme.isChain_apart_cons id).2 inductionHypothesis
  | enclosed _ inductionHypothesis =>
      exact (Lexeme.isChain_apart_cons id).2
        ((Lexeme.isChain_apart_symbol id).2 ⟨inductionHypothesis, List.isChain_nil⟩)
  | ofFactor _ inductionHypothesis | ofProduct _ inductionHypothesis => exact inductionHypothesis
  | multiplied _ _ _ left right | added _ _ _ left right =>
      exact (Lexeme.isChain_apart_symbol id).2 ⟨left, right⟩

/-- The lexemes from a text up to a rest make an expression. Blanks in front of the rest do
not matter. -/
def Reads (level : Level) (text : Text) (expression : Expression) (rest : Text) : Prop :=
  ∃ lexemes between, Lexes text lexemes between ∧ Derives level lexemes expression ∧
    Text.trimStart between = Text.trimStart rest

/-- What is taken as a number is a literal, if it is one. -/
theorem exists_isLiteral_of_spanNumber
    {text literal rest : Text}
    {x : Float}
    (taken : spanNumber text = (literal, rest))
    (found : literalNumber? literal = some x) :
    ∃ isLiteral : IsLiteral literal, isLiteral.value = x := by
  have digit : literal.any Char.isDigit = true := by
    by_contra noDigit
    rw [literalNumber?, if_neg noDigit] at found
    cases found
  have isLiteral : IsLiteral (spanNumber text).1 := isLiteral_spanNumber (taken ▸ digit)
  rw [taken] at isLiteral
  exact ⟨isLiteral, Option.some.inj (isLiteral.literalNumber?_eq.symm.trans found)⟩

/-- What is taken as a name is one, if a letter leads it. -/
theorem isPath_of_span
    {c : Char}
    {text path rest : Text}
    (letter : c.isAlpha = true ∨ c = '_')
    (taken : (c :: text).span isPathChar = (path, rest)) :
    IsPath path ∧ path ++ rest = c :: text := by
  rw [List.span_eq_takeWhile_dropWhile] at taken
  obtain ⟨front, back⟩ := Prod.mk.inj taken
  refine ⟨?_, by rw [← front, ← back, List.takeWhile_append_dropWhile]⟩
  rw [List.takeWhile_cons_of_pos (isPathChar_of_leads letter)] at front
  subst front
  exact .mk letter fun d => List.mem_takeWhile_imp

/-- A word is read as the number or the name that it is. -/
theorem exists_word_of_readLeaf
    {c : Char}
    {text rest : Text}
    {expression : Expression}
    (read : readLeaf c text = .ok (expression, rest)) :
    ∃ word : Lexeme, Derives .factor [word] expression ∧ c :: text = word.text ++ rest ∧
      word.LongestIn (c :: text) := by
  unfold readLeaf at read
  split at read
  · cases taken : spanNumber (c :: text) with
    | mk literal behind =>
        rw [taken] at read
        have whole := spanNumber_append (c :: text)
        rw [taken] at whole
        cases found : literalNumber? literal with
        | none =>
            simp only [found] at read
            cases read
        | some x =>
            simp only [found] at read
            cases read
            obtain ⟨isLiteral, rfl⟩ := exists_isLiteral_of_spanNumber taken found
            exact ⟨.number literal isLiteral, .number isLiteral, whole.symm,
              longestIn_of_spanNumber isLiteral taken⟩
  · split at read
    · next leads =>
        cases taken : (c :: text).span isPathChar with
        | mk path behind =>
            rw [taken] at read
            cases read
            obtain ⟨isPath, whole⟩ := isPath_of_span (by simpa using leads) taken
            exact ⟨.name path isPath, .name isPath, whole.symm,
              longestIn_of_span_isPathChar isPath taken⟩
    · cases read

/-- What the readers with some fuel read is derived. -/
structure Sound (whole : Text) (fuel : Nat) : Prop where
  factor {text rest : Text} {expression : Expression} :
    readFactor whole fuel text = .ok (expression, rest) → Reads .factor text expression rest
  product {text rest : Text} {expression : Expression} :
    readProduct whole fuel text = .ok (expression, rest) → Reads .product text expression rest
  productAfter {start text rest : Text} {left expression : Expression} :
    Reads .product start left text →
      readProductAfter whole fuel left text = .ok (expression, rest) →
      Reads .product start expression rest
  sum {text rest : Text} {expression : Expression} :
    readSum whole fuel text = .ok (expression, rest) → Reads .sum text expression rest
  sumAfter {start text rest : Text} {left expression : Expression} :
    Reads .sum start left text →
      readSumAfter whole fuel left text = .ok (expression, rest) →
      Reads .sum start expression rest

theorem trimStart_idem (text : Text) :
    Text.trimStart (Text.trimStart text) = Text.trimStart text :=
  List.dropWhile_idempotent _ text

theorem Reads.mono
    {level other : Level}
    {text rest : Text}
    {expression : Expression}
    (reads : Reads level text expression rest)
    (lift : ∀ {lexemes}, Derives level lexemes expression → Derives other lexemes expression) :
    Reads other text expression rest := by
  obtain ⟨lexemes, between, lexed, derives, trimmed⟩ := reads
  exact ⟨lexemes, between, lexed, lift derives, trimmed⟩

/-- Only blanks in front of the rest are passed. -/
theorem Reads.trimmed
    {level : Level}
    {text rest other : Text}
    {expression : Expression}
    (reads : Reads level text expression rest)
    (same : Text.trimStart rest = other) :
    Reads level text expression other := by
  obtain ⟨lexemes, between, lexed, derives, trimmed⟩ := reads
  exact ⟨lexemes, between, lexed, derives, by rw [← same, trimStart_idem, trimmed]⟩

/-- An operation joins what was read before it and what is read behind it. -/
theorem Reads.joined
    {level right : Level}
    {start text behind rest : Text}
    {left expression : Expression}
    {op : Operator}
    (before : Reads level start left text)
    (trimmed : Text.trimStart text = op.symbol :: behind)
    (after : Reads right behind expression rest)
    (join : ∀ {lexemes others}, Derives level lexemes left → Derives right others expression →
      Derives level (lexemes ++ .operator op :: others) (.binary op left expression)) :
    Reads level start (.binary op left expression) rest := by
  obtain ⟨lexemes, between, lexed, derives, sameBetween⟩ := before
  obtain ⟨others, last, otherLexed, otherDerives, sameLast⟩ := after
  exact ⟨lexemes ++ .operator op :: others, last,
    lexed.append (otherLexed.cons_symbol _ id (sameBetween.trans trimmed)),
    join derives otherDerives, sameLast⟩

namespace Sound

variable {whole : Text} {fuel : Nat}

theorem factor_succ
    (sound : Sound whole fuel)
    {text rest : Text}
    {expression : Expression}
    (read : readFactor whole (fuel + 1) text = .ok (expression, rest)) :
    Reads .factor text expression rest := by
  rw [readFactor] at read
  split at read
  · cases read
  · next behind trimmed =>
      obtain ⟨⟨inner, left⟩, readInner, done⟩ := bind_eq_ok_iff.1 read
      cases done
      obtain ⟨lexemes, between, lexed, derives, same⟩ := sound.factor readInner
      exact ⟨_, between, lexed.cons_symbol (.operator .sub) id trimmed,
        .negative derives, same⟩
  · next behind trimmed =>
      obtain ⟨lexemes, between, lexed, derives, same⟩ := sound.factor read
      exact ⟨_, between, lexed.cons_symbol (.operator .add) id trimmed,
        .positive derives, same⟩
  · next behind trimmed =>
      obtain ⟨⟨inner, left⟩, readInner, done⟩ := bind_eq_ok_iff.1 read
      obtain ⟨lexemes, between, lexed, derives, same⟩ := sound.sum readInner
      dsimp only at done
      split at done
      · next last closed =>
          cases done
          have closing : Lexes between [.closing] rest :=
            Lexes.nil.cons_symbol .closing id (same.trans closed)
          exact ⟨_, rest, (lexed.append closing).cons_symbol .opening id trimmed,
            .enclosed derives, rfl⟩
      · cases done
  · next c behind _ _ _ trimmed =>
      obtain ⟨word, derives, same, longest⟩ := exists_word_of_readLeaf read
      rw [same] at longest
      exact ⟨[word], rest, Lexes.cons_iff.2 ⟨rest, trimmed.trans same, longest, .nil⟩, derives, rfl⟩

theorem product_succ
    (sound : Sound whole fuel)
    {text rest : Text}
    {expression : Expression}
    (read : readProduct whole (fuel + 1) text = .ok (expression, rest)) :
    Reads .product text expression rest := by
  obtain ⟨⟨left, between⟩, readLeft, readRest⟩ := bind_eq_ok_iff.1 read
  exact sound.productAfter ((sound.factor readLeft).mono .ofFactor) readRest

theorem productAfter_succ
    (sound : Sound whole fuel)
    {start text rest : Text}
    {left expression : Expression}
    (before : Reads .product start left text)
    (read : readProductAfter whole (fuel + 1) left text = .ok (expression, rest)) :
    Reads .product start expression rest := by
  rw [readProductAfter] at read
  split at read
  · next trimmed =>
      cases read
      exact before.trimmed trimmed
  · next c behind trimmed =>
      split at read
      · next op writes =>
          obtain ⟨rfl, isProduct⟩ := Operator.product?_eq_some_iff.1 writes
          obtain ⟨⟨right, last⟩, readRight, readRest⟩ := bind_eq_ok_iff.1 read
          have joined := before.joined trimmed (sound.factor readRight) fun derives =>
            .multiplied derives isProduct
          exact sound.productAfter joined readRest
      · cases read
        exact before.trimmed trimmed

theorem sum_succ
    (sound : Sound whole fuel)
    {text rest : Text}
    {expression : Expression}
    (read : readSum whole (fuel + 1) text = .ok (expression, rest)) :
    Reads .sum text expression rest := by
  obtain ⟨⟨left, between⟩, readLeft, readRest⟩ := bind_eq_ok_iff.1 read
  exact sound.sumAfter ((sound.product readLeft).mono .ofProduct) readRest

theorem sumAfter_succ
    (sound : Sound whole fuel)
    {start text rest : Text}
    {left expression : Expression}
    (before : Reads .sum start left text)
    (read : readSumAfter whole (fuel + 1) left text = .ok (expression, rest)) :
    Reads .sum start expression rest := by
  rw [readSumAfter] at read
  split at read
  · next trimmed =>
      cases read
      exact before.trimmed trimmed
  · next c behind trimmed =>
      split at read
      · next op writes =>
          obtain ⟨rfl, isSum⟩ := Operator.sum?_eq_some_iff.1 writes
          obtain ⟨⟨right, last⟩, readRight, readRest⟩ := bind_eq_ok_iff.1 read
          have joined := before.joined trimmed (sound.product readRight) fun derives =>
            .added derives isSum
          exact sound.sumAfter joined readRest
      · cases read
        exact before.trimmed trimmed

/-- The readers derive what they read with any fuel. -/
theorem ofFuel (whole : Text) : (fuel : Nat) → Sound whole fuel
  | 0 => by constructor <;> intros <;> contradiction
  | fuel + 1 =>
      have sound := ofFuel whole fuel
      ⟨sound.factor_succ, sound.product_succ, sound.productAfter_succ, sound.sum_succ,
        sound.sumAfter_succ⟩

end Sound

/-- Behind the blanks stands no operation of products. -/
def EndsProduct (text : Text) : Prop :=
  ∀ c ∈ (Text.trimStart text).head?, Operator.product? c = none

/-- Behind the blanks stands no operation of sums. -/
def EndsSum (text : Text) : Prop :=
  ∀ c ∈ (Text.trimStart text).head?, Operator.sum? c = none

section Forward

variable {whole text rest : Text} {fuel : Nat}

theorem readProductAfter_end
    (ends : EndsProduct text)
    (left : Expression) :
    readProductAfter whole (fuel + 1) left text = .ok (left, Text.trimStart text) := by
  rw [readProductAfter]
  split
  · next trimmed => rw [trimmed]
  · next c behind trimmed =>
      rw [ends c (by rw [trimmed]; rfl), trimmed]

theorem readSumAfter_end
    (ends : EndsSum text)
    (left : Expression) :
    readSumAfter whole (fuel + 1) left text = .ok (left, Text.trimStart text) := by
  rw [readSumAfter]
  split
  · next trimmed => rw [trimmed]
  · next c behind trimmed =>
      rw [ends c (by rw [trimmed]; rfl), trimmed]

/-- Behind an operation of products the next factor is read. -/
theorem readProductAfter_operator
    {op : Operator}
    (isProduct : op.level = .product)
    {right : Expression}
    {behind : Text}
    (trimmed : Text.trimStart text = op.symbol :: behind)
    (read : readFactor whole fuel behind = .ok (right, rest))
    (left : Expression) :
    readProductAfter whole (fuel + 1) left text =
      readProductAfter whole fuel (.binary op left right) rest := by
  rw [readProductAfter, trimmed]
  simp only [Operator.product?_eq_some_iff.2 ⟨rfl, isProduct⟩, read]
  rfl

/-- Behind an operation of sums the next product is read. -/
theorem readSumAfter_operator
    {op : Operator}
    (isSum : op.level = .sum)
    {right : Expression}
    {behind : Text}
    (trimmed : Text.trimStart text = op.symbol :: behind)
    (read : readProduct whole fuel behind = .ok (right, rest))
    (left : Expression) :
    readSumAfter whole (fuel + 1) left text =
      readSumAfter whole fuel (.binary op left right) rest := by
  rw [readSumAfter, trimmed]
  simp only [Operator.sum?_eq_some_iff.2 ⟨rfl, isSum⟩, read]
  rfl

theorem readFactor_negative
    {inner : Expression}
    {behind : Text}
    (trimmed : Text.trimStart text = '-' :: behind)
    (read : readFactor whole fuel behind = .ok (inner, rest)) :
    readFactor whole (fuel + 1) text = .ok (.negative inner, rest) := by
  rw [readFactor, trimmed]
  simp only [read]
  rfl

theorem readFactor_positive
    {behind : Text}
    (trimmed : Text.trimStart text = '+' :: behind) :
    readFactor whole (fuel + 1) text = readFactor whole fuel behind := by
  rw [readFactor, trimmed]
  rfl

/-- A sum in parentheses is read up to the closing one. -/
theorem readFactor_enclosed
    {inner : Expression}
    {behind between : Text}
    (trimmed : Text.trimStart text = '(' :: behind)
    (read : readSum whole fuel behind = .ok (inner, between))
    (closed : Text.trimStart between = ')' :: rest) :
    readFactor whole (fuel + 1) text = .ok (inner, rest) := by
  rw [readFactor, trimmed]
  simp only [read, closed, bind, Except.bind]
  rfl

/-- The longest number is read. -/
theorem readLeaf_number
    {c : Char}
    {literal : Text}
    {isLiteral : IsLiteral literal}
    (same : c :: text = literal ++ rest)
    (longest : (Lexeme.number literal isLiteral).LongestIn (literal ++ rest)) :
    readLeaf c text = .ok (.number isLiteral.value, rest) := by
  have begins : (c.isDigit || c == '.') = true := by
    obtain ⟨d, literal, rfl, begins⟩ := isLiteral.exists_cons
    obtain ⟨rfl, -⟩ := List.cons.inj same
    simpa using begins
  rw [readLeaf, if_pos begins, same, spanNumber_of_longestIn longest]
  simp only [isLiteral.literalNumber?_eq]

/-- The longest name is read. -/
theorem readLeaf_name
    {c : Char}
    {path : Text}
    {isPath : IsPath path}
    (same : c :: text = path ++ rest)
    (longest : (Lexeme.name path isPath).LongestIn (path ++ rest)) :
    readLeaf c text = .ok (.reference (String.ofList path), rest) := by
  have leads : c.isAlpha = true ∨ c = '_' := by
    cases isPath with
    | mk leads _ =>
        obtain ⟨rfl, -⟩ := List.cons.inj same
        exact leads
  have beginsNot : ¬ (c.isDigit || c == '.') = true := fun begins =>
    not_leads (by simpa using begins) leads
  have letter : (c.isAlpha || c == '_') = true := by simpa using leads
  rw [readLeaf, if_neg beginsNot, if_pos letter, same, span_isPathChar_of_longestIn longest]

/-- What starts as a word does is read as one. -/
theorem readFactor_word
    {c : Char}
    {behind : Text}
    (trimmed : Text.trimStart text = c :: behind)
    (named : isPathChar c = true) :
    readFactor whole (fuel + 1) text = readLeaf c behind := by
  rw [readFactor, trimmed]
  split
  · next same => cases same
  · next same =>
      cases same
      cases named
  · next same =>
      cases same
      cases named
  · next same =>
      cases same
      cases named
  · next same =>
      cases same
      rfl

theorem length_trimStart_le (text : Text) : (Text.trimStart text).length ≤ text.length :=
  (List.dropWhile_suffix isBlank).length_le

/-- Behind the first lexeme a text is shorter. -/
theorem length_lt_of_trimStart
    {lexeme : Lexeme}
    {behind : Text}
    (trimmed : Text.trimStart text = lexeme.text ++ behind) :
    behind.length < text.length := by
  have notLonger := length_trimStart_le text
  have some := lexeme.length_text_pos
  rw [trimmed, List.length_append] at notLonger
  omega

end Forward

/-- The readers follow a derivation if they have fuel for all characters, and there is fuel left
for those behind it. A factor is read to its end; a product or sum is read as far as it goes. -/
def Follows : (level : Level) → (text : Text) → (expression : Expression) → (rest : Text) → Prop
  | .factor, text, expression, rest =>
      ∀ whole fuel, 4 * text.length < fuel →
        readFactor whole fuel text = .ok (expression, rest)
  | .product, text, expression, rest =>
      ∀ whole fuel, 4 * text.length + 1 < fuel →
        ∃ left, 4 * rest.length < left ∧
          readProduct whole fuel text = readProductAfter whole left expression rest
  | .sum, text, expression, rest =>
      EndsProduct rest → ∀ whole fuel, 4 * text.length + 2 < fuel →
        ∃ left between, 4 * between.length < left ∧
          Text.trimStart between = Text.trimStart rest ∧
          readSum whole fuel text = readSumAfter whole left expression between

/-- Wherever these lexemes stand, the readers follow them to the expression. -/
def Followed (level : Level) (lexemes : List Lexeme) (expression : Expression) : Prop :=
  ∀ {text rest : Text}, Lexes text lexemes rest → Follows level text expression rest

namespace Followed

variable {lexemes others : List Lexeme} {left right inner : Expression} {op : Operator}

/-- A word is followed if it is read as a leaf. -/
theorem word
    (word : Lexeme)
    (isWord : word.IsWord)
    {expression : Expression}
    (reads : ∀ {c text rest}, c :: text = word.text ++ rest →
      word.LongestIn (word.text ++ rest) → readLeaf c text = .ok (expression, rest)) :
    Followed .factor [word] expression := by
  intro text rest lexed whole fuel enough
  obtain ⟨behind, trimmed, longest, last⟩ := Lexes.cons_iff.1 lexed
  cases last
  obtain ⟨c, characters, same⟩ := List.exists_cons_of_ne_nil word.text_ne_nil
  have named : isPathChar c = true := Lexeme.isPathChar_of_mem isWord (same ▸ List.mem_cons_self)
  have starts : c :: (characters ++ rest) = word.text ++ rest := by rw [same, List.cons_append]
  obtain ⟨fuel, rfl⟩ := Nat.exists_eq_succ_of_ne_zero (Nat.ne_zero_of_lt enough)
  rw [readFactor_word (trimmed.trans starts.symm) named]
  exact reads starts longest

theorem negative (factor : Followed .factor lexemes inner) :
    Followed .factor (.operator .sub :: lexemes) (.negative inner) := by
  intro text rest lexed whole fuel enough
  obtain ⟨behind, trimmed, -, others⟩ := Lexes.cons_iff.1 lexed
  have shorter := length_lt_of_trimStart trimmed
  obtain ⟨fuel, rfl⟩ := Nat.exists_eq_succ_of_ne_zero (Nat.ne_zero_of_lt enough)
  exact readFactor_negative trimmed (factor others whole fuel (by omega))

theorem positive (factor : Followed .factor lexemes inner) :
    Followed .factor (.operator .add :: lexemes) inner := by
  intro text rest lexed whole fuel enough
  obtain ⟨behind, trimmed, -, others⟩ := Lexes.cons_iff.1 lexed
  have shorter := length_lt_of_trimStart trimmed
  obtain ⟨fuel, rfl⟩ := Nat.exists_eq_succ_of_ne_zero (Nat.ne_zero_of_lt enough)
  exact (readFactor_positive trimmed).trans (factor others whole fuel (by omega))

theorem enclosed (sum : Followed .sum lexemes inner) :
    Followed .factor (.opening :: (lexemes ++ [.closing])) inner := by
  intro text rest lexed whole fuel enough
  obtain ⟨behind, trimmed, -, others⟩ := Lexes.cons_iff.1 lexed
  obtain ⟨between, first, last⟩ := others.exists_between
  obtain ⟨after, closed, -, none⟩ := Lexes.cons_iff.1 last
  cases none
  have shorter := length_lt_of_trimStart trimmed
  obtain ⟨fuel, rfl⟩ := Nat.exists_eq_succ_of_ne_zero (Nat.ne_zero_of_lt enough)
  have endsProduct : EndsProduct between := by
    rw [EndsProduct, closed]
    rintro _ ⟨⟩
    rfl
  obtain ⟨left, middle, leftEnough, same, read⟩ := sum first endsProduct whole fuel (by omega)
  obtain ⟨left, rfl⟩ := Nat.exists_eq_succ_of_ne_zero (Nat.ne_zero_of_lt leftEnough)
  have closing : Text.trimStart middle = ')' :: rest := same.trans closed
  have endsSum : EndsSum middle := by
    rw [EndsSum, closing]
    rintro _ ⟨⟩
    rfl
  rw [readSumAfter_end endsSum] at read
  exact readFactor_enclosed trimmed read ((trimStart_idem middle).trans closing)

theorem ofFactor (factor : Followed .factor lexemes inner) : Followed .product lexemes inner := by
  intro text rest lexed whole fuel enough
  have shorter := lexed.length_le
  obtain ⟨fuel, rfl⟩ := Nat.exists_eq_succ_of_ne_zero (Nat.ne_zero_of_lt enough)
  refine ⟨fuel, by omega, ?_⟩
  rw [readProduct, factor lexed whole fuel (by omega)]
  rfl

/-- A factor behind an operation is read with what a product before it left. -/
theorem multiplied
    (product : Followed .product lexemes left)
    (isProduct : op.level = .product)
    (factor : Followed .factor others right) :
    Followed .product (lexemes ++ .operator op :: others) (.binary op left right) := by
  intro text rest lexed whole fuel enough
  obtain ⟨between, first, second⟩ := lexed.exists_between
  obtain ⟨behind, trimmed, -, last⟩ := Lexes.cons_iff.1 second
  have shorter := length_lt_of_trimStart trimmed
  have notLonger := last.length_le
  obtain ⟨fuelLeft, leftEnough, read⟩ := product first whole fuel enough
  obtain ⟨fuelLeft, rfl⟩ := Nat.exists_eq_succ_of_ne_zero (Nat.ne_zero_of_lt leftEnough)
  have readRight := factor last whole fuelLeft (by omega)
  exact ⟨fuelLeft, by omega,
    read.trans (readProductAfter_operator isProduct trimmed readRight left)⟩

/-- A product is read to its end where no operation of products is next. -/
theorem readProduct_eq
    (product : Followed .product lexemes inner)
    (whole : Text)
    {text rest : Text}
    {fuel : Nat}
    (lexed : Lexes text lexemes rest)
    (endsProduct : EndsProduct rest)
    (enough : 4 * text.length + 1 < fuel) :
    readProduct whole fuel text = .ok (inner, Text.trimStart rest) := by
  obtain ⟨fuelLeft, leftEnough, read⟩ := product lexed whole fuel enough
  obtain ⟨fuelLeft, rfl⟩ := Nat.exists_eq_succ_of_ne_zero (Nat.ne_zero_of_lt leftEnough)
  rw [read, readProductAfter_end endsProduct]

theorem ofProduct (product : Followed .product lexemes inner) : Followed .sum lexemes inner := by
  intro text rest lexed endsProduct whole fuel enough
  have shorter := lexed.length_le
  have trimmedShorter := length_trimStart_le rest
  obtain ⟨fuel, rfl⟩ := Nat.exists_eq_succ_of_ne_zero (Nat.ne_zero_of_lt enough)
  refine ⟨fuel, Text.trimStart rest, by omega, trimStart_idem rest, ?_⟩
  rw [readSum, product.readProduct_eq whole lexed endsProduct (by omega)]
  rfl

/-- A product behind an operation is read with what a sum before it left. -/
theorem added
    (sum : Followed .sum lexemes left)
    (isSum : op.level = .sum)
    (product : Followed .product others right) :
    Followed .sum (lexemes ++ .operator op :: others) (.binary op left right) := by
  intro text rest lexed endsProduct whole fuel enough
  obtain ⟨between, first, second⟩ := lexed.exists_between
  obtain ⟨behind, trimmed, -, last⟩ := Lexes.cons_iff.1 second
  have endsFirst : EndsProduct between := by
    rw [EndsProduct, trimmed]
    rintro _ ⟨⟩
    cases op <;> first | rfl | cases isSum
  obtain ⟨fuelLeft, middle, leftEnough, same, read⟩ := sum first endsFirst whole fuel enough
  obtain ⟨fuelLeft, rfl⟩ := Nat.exists_eq_succ_of_ne_zero (Nat.ne_zero_of_lt leftEnough)
  have middleTrimmed := same.trans trimmed
  have shorter := length_lt_of_trimStart middleTrimmed
  have notLonger := last.length_le
  have trimmedShorter := length_trimStart_le rest
  have readRight := product.readProduct_eq whole last endsProduct
    (by omega : 4 * behind.length + 1 < fuelLeft)
  exact ⟨fuelLeft, Text.trimStart rest, by omega, trimStart_idem rest,
    read.trans (readSumAfter_operator isSum middleTrimmed readRight left)⟩

end Followed

/-- The readers follow every derivation. -/
theorem Derives.followed
    {level : Level}
    {lexemes : List Lexeme}
    {expression : Expression}
    (derives : Derives level lexemes expression) :
    Followed level lexemes expression := by
  induction derives with
  | number isLiteral => exact Followed.word (.number _ isLiteral) trivial readLeaf_number
  | name isPath => exact Followed.word (.name _ isPath) trivial readLeaf_name
  | negative _ factor => exact factor.negative
  | positive _ factor => exact factor.positive
  | enclosed _ sum => exact sum.enclosed
  | ofFactor _ factor => exact factor.ofFactor
  | multiplied _ isProduct _ product factor => exact product.multiplied isProduct factor
  | ofProduct _ product => exact product.ofProduct
  | added _ isSum _ sum product => exact sum.added isSum product

/-- What a whole text is read as is derived from its lexemes. -/
theorem derives_of_parse
    {input : Text}
    {expression : Expression}
    (parsed : parse input = .ok expression) :
    ∃ lexemes blanks, Lexes (Text.plainMinus input) lexemes blanks ∧
      (∀ c ∈ blanks, isBlank c = true) ∧ Derives .sum lexemes expression := by
  obtain ⟨⟨result, rest⟩, read, done⟩ := bind_eq_ok_iff.1 parsed
  obtain ⟨lexemes, between, lexed, derives, same⟩ := (Sound.ofFuel _ _).sum read
  dsimp only at done
  split at done
  · next trimmed =>
      cases done
      exact ⟨lexemes, between, lexed, Text.trimStart_eq_nil_iff.1 (same.trans trimmed), derives⟩
  · cases done

/-- A sum up to the end is read as what its lexemes derive. -/
theorem Derives.readSum_eq
    {lexemes : List Lexeme}
    {expression : Expression}
    (derives : Derives .sum lexemes expression)
    (whole : Text)
    {text blanks : Text}
    (lexed : Lexes text lexemes blanks)
    (blank : ∀ c ∈ blanks, isBlank c = true) :
    readSum whole (4 * text.length + 4) text = .ok (expression, []) := by
  have trimmed := Text.trimStart_eq_nil_iff.2 blank
  have endsProduct : EndsProduct blanks := by
    rw [EndsProduct, trimmed]
    rintro _ ⟨⟩
  obtain ⟨left, between, enough, same, read⟩ :=
    derives.followed lexed endsProduct whole (4 * text.length + 4) (by omega)
  obtain ⟨left, rfl⟩ := Nat.exists_eq_succ_of_ne_zero (Nat.ne_zero_of_lt enough)
  have nothing : Text.trimStart between = [] := same.trans trimmed
  have endsSum : EndsSum between := by
    rw [EndsSum, nothing]
    rintro _ ⟨⟩
  rw [read, readSumAfter_end endsSum, nothing]

/-- A whole text is read as what its lexemes derive. -/
theorem Derives.parse
    {lexemes : List Lexeme}
    {expression : Expression}
    (derives : Derives .sum lexemes expression)
    {input blanks : Text}
    (lexed : Lexes (Text.plainMinus input) lexemes blanks)
    (blank : ∀ c ∈ blanks, isBlank c = true) :
    parse input = .ok expression :=
  bind_eq_ok_iff.2 ⟨(expression, []), derives.readSum_eq _ lexed blank, rfl⟩

/-- Blanks between lexemes never change what they are read as. -/
theorem parse_eq_ok_iff_spaced
    {input : Text}
    {expression : Expression} :
    parse input = .ok expression ↔
      ∃ lexemes, Spaced (Text.plainMinus input) lexemes ∧ Derives .sum lexemes expression := by
  constructor
  · intro parsed
    obtain ⟨lexemes, blanks, lexed, blank, derives⟩ := derives_of_parse parsed
    exact ⟨lexemes, lexed.spaced blank, derives⟩
  · rintro ⟨lexemes, spaced, derives⟩
    obtain ⟨blanks, lexed, blank⟩ := spaced.lexes derives.isChain_apart
    exact derives.parse lexed blank

namespace Level

/-- How many levels are below. -/
def rank : Level → Nat
  | .factor => 0
  | .product => 1
  | .sum => 2

/-- The next level below, that of right operands: operations group to the left. -/
def below : Level → Level
  | .sum => .product
  | .product | .factor => .factor

end Level

/-- What is derived at a level is derived at the levels above. -/
theorem Derives.raise
    {level outer : Level}
    {lexemes : List Lexeme}
    {expression : Expression}
    (derives : Derives level lexemes expression)
    (fits : level.rank ≤ outer.rank) :
    Derives outer lexemes expression := by
  cases level <;> cases outer
  case factor.factor | product.product | sum.sum => exact derives
  case factor.product => exact derives.ofFactor
  case factor.sum => exact derives.ofFactor.ofProduct
  case product.sum => exact derives.ofProduct
  all_goals exact absurd fits (by decide)

/-- A tree to be written, with the literals and names of its leaves. -/
inductive Formula
  | number (literal : Text) (isLiteral : IsLiteral literal)
  | name (path : Text) (isPath : IsPath path)
  | negative (inner : Formula)
  | binary (op : Operator) (left right : Formula)

namespace Formula

/-- The expression that a formula writes. -/
def tree : Formula → Expression
  | .number _ isLiteral => .number isLiteral.value
  | .name path _ => .reference (String.ofList path)
  | .negative inner => .negative inner.tree
  | .binary op left right => .binary op left.tree right.tree

/-- A formula where only expressions of the level may stand: an operation of a higher level is
put in parentheses, and nothing else is. -/
def lexemes : Formula → Level → List Lexeme
  | .number literal isLiteral, _ => [.number literal isLiteral]
  | .name path isPath, _ => [.name path isPath]
  | .negative inner, _ => .operator .sub :: inner.lexemes .factor
  | .binary op left right, outer =>
      let joined := left.lexemes op.level ++ .operator op :: right.lexemes op.level.below
      if op.level.rank ≤ outer.rank then joined else .opening :: (joined ++ [.closing])

/-- What is written derives the tree. -/
theorem derives (formula : Formula) (outer : Level) :
    Derives outer (formula.lexemes outer) formula.tree := by
  have lowest : Level.factor.rank ≤ outer.rank := Nat.zero_le _
  induction formula generalizing outer with
  | number literal isLiteral => exact (Derives.number isLiteral).raise lowest
  | name path isPath => exact (Derives.name isPath).raise lowest
  | negative inner inductionHypothesis =>
      exact (Derives.negative (inductionHypothesis .factor le_rfl)).raise lowest
  | binary op left right leftHypothesis rightHypothesis =>
      have joined : Derives op.level
          (left.lexemes op.level ++ .operator op :: right.lexemes op.level.below)
          (.binary op left.tree right.tree) := by
        have first := leftHypothesis op.level (Nat.zero_le _)
        have second := rightHypothesis op.level.below (Nat.zero_le _)
        cases reach : op.level with
        | factor => cases op <;> cases reach
        | product =>
            rw [reach] at first second
            exact .multiplied first reach second
        | sum =>
            rw [reach] at first second
            exact .added first reach second
      rw [lexemes]
      split
      · next fits => exact joined.raise fits
      · exact (Derives.enclosed (joined.raise (by cases op <;> decide))).raise lowest

end Formula

/-- A text is an expression exactly if its lexemes, each as long as possible, derive a sum, and
the derivation gives the tree. So a formula that is written with its parentheses and any blanks
is read back. -/
theorem parse_follows_grammar (input : Text) :
    (∀ expression, parse input = .ok expression ↔
      ∃ lexemes blanks, Lexes (Text.plainMinus input) lexemes blanks ∧
        (∀ c ∈ blanks, isBlank c = true) ∧ Derives .sum lexemes expression) ∧
    ∀ formula : Formula, Spaced (Text.plainMinus input) (formula.lexemes .sum) →
      parse input = .ok formula.tree := by
  constructor
  · intro expression
    constructor
    · exact derives_of_parse
    · rintro ⟨lexemes, blanks, lexed, blank, derives⟩
      exact derives.parse lexed blank
  · intro formula spaced
    exact parse_eq_ok_iff_spaced.2 ⟨_, spaced, formula.derives .sum⟩

/-- A product with a sum in parentheses, a sign, a typographic minus and blanks is read back. -/
theorem negative_sum_times_number_reads_back :
    let one : IsLiteral ['1'] := .whole (by decide) (List.all_eq_true.1 rfl)
    let half : IsLiteral ['.', '5'] :=
      @IsLiteral.pointed [] ['5'] (by decide) (List.all_eq_true.1 rfl)
    let path : IsPath "dex.mod".toList := .mk (.inl rfl) (List.all_eq_true.1 rfl)
    let formula : Formula := .binary .mul
      (.negative (.binary .sub (.number _ one) (.name _ path))) (.number _ half)
    let input := "\u2212( 1\u2212 dex.mod)\t*.5 ".toList
    Spaced (Text.plainMinus input) (formula.lexemes .sum) ∧
      parse input = .ok (.binary .mul
        (.negative (.binary .sub (.number 1.0) (.reference "dex.mod"))) (.number 0.5)) := by
  intro one half path formula input
  have spaced : Spaced (Text.plainMinus input) (formula.lexemes .sum) := by
    refine .cons_of_trimStart rfl ?_
    refine .cons_of_trimStart rfl ?_
    refine .cons_of_trimStart rfl ?_
    refine .cons_of_trimStart rfl ?_
    refine .cons_of_trimStart rfl ?_
    refine .cons_of_trimStart rfl ?_
    refine .cons_of_trimStart rfl ?_
    refine .cons_of_trimStart rfl (.nil (List.all_eq_true.1 rfl))
  exact ⟨spaced, (parse_follows_grammar input).2 formula spaced⟩

end Expression
end CharacterSheet
