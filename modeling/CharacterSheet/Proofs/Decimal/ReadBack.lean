import CharacterSheet.Proofs.Decimal.Shown
import CharacterSheet.Proofs.Notation.ExpressionGrammar

/-!
# Amounts that read back

The text of a finite amount is a literal with a sign or without (`Amount.exists_literal`), so it
is read as a number, and as an expression with that number. Two places behind the point are not
enough for every amount. Those that read back (`Amount.ReadsBack`) are all whole numbers
(`Amount.readsBack_of_isWhole`) and further ones.
-/

namespace CharacterSheet

open Expression

namespace Amount

/-- An amount whose text is that of the same amount. -/
def ReadsBack (x : Float) : Prop :=
  ∃ y, Text.number? (resultText x) = some y ∧ SameAmount x y

/-- Of digits behind a point, zeros at the end are dropped, and the point if nothing is left. -/
theorem exists_literal_of_places
    (sign : Text)
    {whole places : Text}
    (proper : whole ≠ [])
    (isDigit : ∀ c ∈ whole ++ places, c.isDigit = true) :
    ∃ literal, IsLiteral literal ∧
      dropEnd '.' (dropEnd '0' (sign ++ (whole ++ '.' :: places))) = sign ++ literal := by
  have notPoint {c : Char} (digit : c.isDigit = true) : ¬ (c == '.') = true := by
    intro point
    rw [beq_iff_eq.1 point] at digit
    cases digit
  change ∃ literal, _ ∧ ((sign ++ _).rdropWhile (· == '0')).rdropWhile (· == '.') = _
  induction places using List.reverseRecOn with
  | nil =>
      refine ⟨whole, .whole proper (by simpa using isDigit), ?_⟩
      rw [← List.append_assoc, List.rdropWhile_concat_neg _ _ _ (by decide),
        List.rdropWhile_concat_pos _ _ _ rfl]
      cases whole using List.reverseRecOn with
      | nil => exact absurd rfl proper
      | append_singleton whole c =>
          rw [← List.append_assoc, List.rdropWhile_concat_neg (· == '.') _ c]
          exact notPoint (isDigit c (by simp))
  | append_singleton places c inductionHypothesis =>
      have parts : sign ++ (whole ++ '.' :: (places ++ [c])) =
          (sign ++ (whole ++ '.' :: places)) ++ [c] := by
        simp
      rw [parts]
      by_cases zero : (c == '0') = true
      · rw [List.rdropWhile_concat_pos (· == '0') _ c zero]
        exact inductionHypothesis fun d member => isDigit d (by
          rcases List.mem_append.1 member with inWhole | inPlaces
          · exact List.mem_append_left _ inWhole
          · exact List.mem_append_right _ (List.mem_append_left _ inPlaces))
      · refine ⟨whole ++ '.' :: (places ++ [c]), .pointed (by simp) isDigit, ?_⟩
        rw [List.rdropWhile_concat_neg (· == '0') _ c zero,
          List.rdropWhile_concat_neg (· == '.') _ c (notPoint (isDigit c (by simp))), parts]

/-- A whole number is shown by its digits; so is zero. -/
theorem exists_literal_of_isWhole
    {x : Float}
    (whole : Rounding.isWhole x = true) :
    ∃ negative literal, ∃ isLiteral : IsLiteral literal,
      resultText x = signedDigits negative literal ∧
        SameAmount x (withSign negative isLiteral.value) := by
  rcases isZero_or_exists_isWholeFloat whole with isZero | ⟨d, normal, n, parts⟩
  · have isLiteral : IsLiteral ['0'] := .whole (by decide) (List.all_eq_true.1 rfl)
    have none : resultText 0.0 = ['0'] := by decide +kernel
    have shown : resultText x = resultText 0.0 :=
      congrArg Engine.resultText (SameAmount.ofAmount (.inr ⟨isZero, .inl rfl⟩))
    have value : isLiteral.value = 0.0 := by
      have read : literalNumber? ['0'] = some 0.0 := by decide +kernel
      exact Option.some.inj (isLiteral.literalNumber?_eq.symm.trans read)
    exact ⟨false, _, isLiteral, shown.trans none, .inr ⟨isZero, .inl value⟩⟩
  · have digits : ∀ c ∈ Digits.ofNat n, c.isDigit = true := fun c =>
      Digits.isDigit_of_mem_ofNat
    have isLiteral : IsLiteral (Digits.ofNat n) := .whole (Digits.ofNat_ne_nil n) digits
    refine ⟨d.negative, _, isLiteral, parts.resultText_eq, .inl ?_⟩
    have value : isLiteral.value = { normal with sign := .positive : Normal }.toFloat := by
      have read := isLiteral.literalNumber?_eq
      rw [isLiteral.literalNumber?_eq_read, read?_of_digits (Digits.ofNat_ne_nil n) digits,
        Option.map_some, DecimalLiteral.toFloat_ofNat parts.magnitude_holds rfl] at read
      exact (Option.some.inj read).symm
    rw [value]
    exact parts.eq_withSign

/-- What is shown of an amount is nothing, or a literal that may have a sign. -/
theorem exists_literal
    (x : Float) :
    resultText x = [] ∨ ∃ negative literal, IsLiteral literal ∧
      resultText x = signedDigits negative literal := by
  by_cases whole : Rounding.isWhole x = true
  · obtain ⟨negative, literal, isLiteral, shown, -⟩ := exists_literal_of_isWhole whole
    exact .inr ⟨negative, literal, isLiteral, shown⟩
  · have notPlain : isPlainWhole x = false := by
      simp [isPlainWhole, whole]
    by_cases finite : x.isFinite = true
    · right
      obtain ⟨d, read⟩ := Dyadic.exists_of_isFinite finite
      have isDigit : ∀ c ∈ Digits.ofNat (Fixed.units 2 d / Nat.pow 10 2) ++
          Fixed.padded 2 (Digits.ofNat (Fixed.units 2 d % Nat.pow 10 2)), c.isDigit = true := by
        intro c member
        rcases List.mem_append.1 member with inWhole | inPlaces
        · exact Digits.isDigit_of_mem_ofNat inWhole
        · rcases List.mem_append.1 inPlaces with zero | digit
          · obtain rfl := List.eq_of_mem_replicate zero
            rfl
          · exact Digits.isDigit_of_mem_ofNat digit
      obtain ⟨literal, isLiteral, shown⟩ := exists_literal_of_places
        (if d.negative then ['-'] else []) (Digits.ofNat_ne_nil _) isDigit
      refine ⟨d.negative, literal, isLiteral, ?_⟩
      have stored : Number.ofFloat? x = some (.real x finite) := dif_pos finite
      unfold resultText Value.ofAmount
      rw [notPlain, stored]
      change Amount.text x = _
      rw [Amount.text, notPlain, Fixed.text, read, signedDigits, ← shown]
      simp [Fixed.pointed]
    · left
      have noNumber : Number.ofFloat? x = none := dif_neg finite
      unfold resultText Value.ofAmount
      rw [notPlain, noNumber]
      rfl

/-- A literal with a sign is read as a number. -/
theorem number?_signedDigits
    (negative : Bool)
    {literal : Text}
    (isLiteral : IsLiteral literal) :
    Text.number? (signedDigits negative literal) = some (withSign negative isLiteral.value) := by
  cases negative with
  | false =>
      change Text.number? literal = _
      rw [isLiteral.number?_eq_unsignedNumber?, isLiteral.unsignedNumber?_eq]
      rfl
  | true =>
      change (Text.unsignedNumber? literal).map _ = _
      rw [isLiteral.unsignedNumber?_eq]
      rfl

/-- Whole amounts read back. -/
theorem readsBack_of_isWhole
    {x : Float}
    (whole : Rounding.isWhole x = true) :
    ReadsBack x := by
  obtain ⟨negative, literal, isLiteral, shown, same⟩ := exists_literal_of_isWhole whole
  exact ⟨_, by rw [shown, number?_signedDigits negative isLiteral], same⟩

/-- A literal with a sign is an expression. -/
def literalExpression (negative : Bool) (x : Float) : Expression :=
  if negative then .negative (.number x) else .number x

/-- A literal with a sign is read as that expression. -/
theorem parse_signedDigits
    (negative : Bool)
    {literal : Text}
    (isLiteral : IsLiteral literal) :
    Expression.parse (signedDigits negative literal) =
      .ok (literalExpression negative isLiteral.value) := by
  have plain (text : Text) (noMinus : Text.minusSign ∉ text) : Text.plainMinus text = text := by
    refine (List.map_congr_left fun c member => ?_).trans (List.map_id text)
    refine if_neg fun minus : (c == Text.minusSign) = true => ?_
    rw [beq_iff_eq] at minus
    exact noMinus (minus ▸ member)
  have noMinus : Text.minusSign ∉ literal := fun member =>
    absurd (isLiteral.isPathChar_of_mem member) (by decide)
  have number : Spaced literal [.number literal isLiteral] := by
    have alone : Spaced ([] ++ ((Lexeme.number literal isLiteral).text ++ [])) _ :=
      .cons (List.forall_mem_nil _) (.nil (List.forall_mem_nil _))
    rwa [List.nil_append, List.append_nil] at alone
  refine parse_eq_ok_iff_spaced.2 ?_
  cases negative with
  | false =>
      refine ⟨_, ?_, Derives.ofProduct (.ofFactor (.number isLiteral))⟩
      change Spaced (Text.plainMinus literal) _
      rwa [plain literal noMinus]
  | true =>
      refine ⟨_, ?_, Derives.ofProduct (.ofFactor (.negative (.number isLiteral)))⟩
      change Spaced ('-' :: Text.plainMinus literal) _
      rw [plain literal noMinus]
      have signed : Spaced ([] ++ ((Lexeme.operator .sub).text ++ literal)) _ :=
        .cons (List.forall_mem_nil _) number
      exact signed

end Amount

end CharacterSheet
