import CharacterSheet.Proofs.Decimal.Exact
import CharacterSheet.Proofs.Decimal.Zero
import CharacterSheet.Proofs.Notation.Content
import CharacterSheet.Rendering.Engine

/-!
# Shown amounts

Amounts are shown in digits, signs and points, so never with notation
(`Amount.isPlain_resultText`). A whole float is shown by its digits alone, however large
it is (`IsWholeFloat.resultText_eq`), and its digits are read as the same float
(`DecimalLiteral.toFloat_ofNat`).
-/

namespace CharacterSheet

open Float.Model

namespace Digits

theorem ofNat_ne_nil (n : Nat) : ofNat n ≠ [] := Nat.toDigits_ne_nil

theorem toNat_ofNat (n : Nat) : toNat (ofNat n) = n := Nat.ofDigitChars_ten_toDigits

/-- Zeros in front do not count. -/
theorem toNat_dropWhile_zero (digits : Text) :
    toNat (digits.dropWhile (· == '0')) = toNat digits := by
  induction digits with
  | nil => rfl
  | cons c digits inductionHypothesis =>
      by_cases zero : c = '0'
      · subst zero
        exact inductionHypothesis
      · rw [List.dropWhile_cons_of_neg (by simpa using zero)]

end Digits

namespace Amount

/-- The text of an amount that a handler gives. -/
def resultText (x : Float) : Text := Engine.resultText (Value.ofAmount x)

/-- Whether a character may be part of an amount. -/
def IsAmountChar (c : Char) : Prop := c.isDigit = true ∨ c ∈ "-.NaNinf".toList

theorem mem_dropEnd
    {c d : Char}
    {text : Text}
    (member : c ∈ dropEnd d text) :
    c ∈ text := by
  unfold dropEnd at member
  rw [List.mem_reverse] at member
  exact List.mem_reverse.1 ((List.dropWhile_suffix _).subset member)

theorem isAmountChar_of_mem_fixed
    {places : Nat}
    {x : Float}
    {c : Char}
    (member : c ∈ Fixed.text places x) :
    IsAmountChar c := by
  unfold Fixed.text at member
  split at member
  · next d _ =>
      simp only [Fixed.pointed, Fixed.padded, List.mem_append, List.mem_replicate,
        List.mem_singleton] at member
      rcases member with sign | (digit | rfl) | ⟨-, rfl⟩ | digit
      · split at sign
        · exact .inr (by simp_all)
        · cases sign
      · exact .inl (Digits.isDigit_of_mem_ofNat digit)
      · exact .inr (by decide)
      · exact .inl rfl
      · exact .inl (Digits.isDigit_of_mem_ofNat digit)
  · have letters {word : Text}
        (known : word.all (fun d => decide (d ∈ "-.NaNinf".toList)) = true)
        (inWord : c ∈ word) :
        IsAmountChar c :=
      .inr (of_decide_eq_true (List.all_eq_true.1 known c inWord))
    split at member
    · exact letters rfl member
    · split at member
      · exact letters rfl member
      · exact letters rfl member

theorem isAmountChar_of_mem_text
    {x : Float}
    {c : Char}
    (member : c ∈ text x) :
    IsAmountChar c := by
  unfold text at member
  split at member
  · unfold Digits.ofInt at member
    split at member
    · rcases List.mem_cons.1 member with rfl | digit
      · exact .inr (by decide)
      · exact .inl (Digits.isDigit_of_mem_ofNat digit)
    · exact .inl (Digits.isDigit_of_mem_ofNat member)
  · exact isAmountChar_of_mem_fixed (mem_dropEnd (mem_dropEnd member))

theorem isPlain_text (x : Float) : (text x).IsPlain := by
  intro c member
  refine ⟨?_, ?_, ?_⟩ <;>
    · rintro rfl
      rcases isAmountChar_of_mem_text member with digit | letter
      · cases digit
      · exact absurd letter (by decide)

theorem isPlain_signedText (x : Float) : (signedText x).IsPlain := by
  unfold signedText
  split
  · exact List.forall_mem_cons.2 ⟨by decide, isPlain_text _⟩
  · exact List.forall_mem_cons.2 ⟨by decide, isPlain_text _⟩

theorem isPlain_resultText (x : Float) : (resultText x).IsPlain := by
  unfold resultText Value.ofAmount
  split
  · exact isPlain_text _
  · split
    · exact isPlain_text _
    · exact List.forall_mem_nil _

end Amount

/-- No whole number that a float holds is too long to be read. -/
theorem Normal.Holds.length_ofNat_le
    {normal : Normal}
    {n : Nat}
    (holds : normal.Holds n)
    {digits : Nat}
    (enough : 53 + normal.exponent.toNat ≤ 3 * digits) :
    (Digits.ofNat n).length ≤ digits :=
  (Nat.length_toDigits_le_iff (by decide) (by omega)).2 (holds.lt_ten_pow enough)

/-- The digits of a whole number that a float holds are read as the float. -/
theorem DecimalLiteral.toFloat_ofNat
    {normal : Normal}
    {n : Nat}
    (holds : normal.Holds n)
    (positive : normal.sign = .positive) :
    DecimalLiteral.toFloat ⟨Digits.ofNat n, 0⟩ = normal.toFloat := by
  have value : Digits.toNat ((Digits.ofNat n).dropWhile (· == '0')) = n := by
    rw [Digits.toNat_dropWhile_zero, Digits.toNat_ofNat]
  have some : ((Digits.ofNat n).dropWhile (· == '0')).isEmpty = false := by
    rw [List.isEmpty_eq_false_iff]
    intro nothing
    rw [nothing] at value
    exact Nat.ne_of_gt holds.pos value.symm
  have length : ((Digits.ofNat n).dropWhile (· == '0')).length ≤ 400 := by
    have most := normal.most
    exact (List.dropWhile_suffix _).length_le.trans (holds.length_ofNat_le (by omega))
  unfold DecimalLiteral.toFloat
  simp only [some, value]
  rw [if_neg (by decide), if_neg (by omega), if_neg (by omega)]
  exact holds.ofScientific_eq positive

/-- A float with the sign of its number. -/
def withSign (negative : Bool) (x : Float) : Float := if negative then -x else x

/-- Digits with the sign of their number. -/
def signedDigits (negative : Bool) (digits : Text) : Text :=
  (if negative then ['-'] else []) ++ digits

namespace Dyadic

variable {x : Float} {d : Dyadic}

/-- Only infinities and NaN are no fractions. -/
theorem exists_of_isFinite
    (finite : x.isFinite = true) :
    ∃ d, ofFloat? x = some d := by
  have exponent : (@UnpackedFloat.unpackExponent .binary64 x.toBits.toBitVec).toNat =
      x.toBits.toNat / 2 ^ 52 % 2 ^ 11 := by
    simp [UnpackedFloat.unpackExponent, Nat.shiftRight_eq_div_pow]
  unfold ofFloat?
  simp only [Nat.pow_eq, beq_iff_eq]
  split
  · next last =>
      exfalso
      have ones : @UnpackedFloat.unpackExponent .binary64 x.toBits.toBitVec = -1#_ := by
        apply BitVec.eq_of_toNat_eq
        rw [exponent, last]
        rfl
      change (UnpackedFloat.unpack .binary64 x.toBits.toBitVec).isFinite = true at finite
      rw [UnpackedFloat.unpack] at finite
      simp only [ones, if_true] at finite
      split at finite <;> cases finite
  · split <;> exact ⟨_, rfl⟩

/-- A mantissa that is not full has the least exponent. -/
theorem full_or_least
    (read : ofFloat? x = some d) :
    2 ^ 52 ≤ d.mantissa ∨ d.mantissa < 2 ^ 52 ∧ d.exponent = -1074 := by
  unfold ofFloat? at read
  simp only [Nat.pow_eq, beq_iff_eq] at read
  split at read
  · cases read
  · split at read
    · cases read
      exact .inr ⟨Nat.mod_lt _ (by decide), rfl⟩
    · cases read
      exact .inl (Nat.le_add_right _ _)

/-- Without mantissa a float is zero. -/
theorem isZero_of_mantissa
    (read : ofFloat? x = some d)
    (none : d.mantissa = 0) :
    IsZero x := by
  have bound : x.toBits.toNat < 2 ^ 64 := x.toBits.toNat_lt
  have known {y : Float} (same : x.toBits.toNat = y.toBits.toNat) : x = y :=
    Float.toBits_inj.1 (UInt64.toNat_inj.1 same)
  have plus : (0.0 : Float).toBits.toNat = 0 := by decide +kernel
  have minus : (-0.0 : Float).toBits.toNat = 2 ^ 63 := by decide +kernel
  unfold ofFloat? at read
  simp only [Nat.pow_eq, beq_iff_eq] at read
  split at read
  · cases read
  · split at read
    · next first =>
        cases read
        change x.toBits.toNat % 2 ^ 52 = 0 at none
        by_cases small : x.toBits.toNat = 0
        · exact .inl (known (by rw [plus, small]))
        · exact .inr (known (by rw [minus]; omega))
    · cases read
      change 2 ^ 52 + _ = 0 at none
      omega

end Dyadic

namespace Amount

/-- Zeros behind the point are dropped with the point, and no digit before it. -/
theorem dropEnd_places
    (sign : Text)
    {digits : Text}
    (proper : digits ≠ [])
    (isDigit : ∀ c ∈ digits, c.isDigit = true) :
    dropEnd '.' (dropEnd '0' (sign ++ (digits ++ ['.', '0', '0']))) = sign ++ digits := by
  have parts : sign ++ (digits ++ ['.', '0', '0']) = sign ++ digits ++ ['.'] ++ ['0'] ++ ['0'] := by
    simp
  change ((sign ++ (digits ++ ['.', '0', '0'])).rdropWhile (· == '0')).rdropWhile (· == '.') = _
  rw [parts, List.rdropWhile_concat_pos _ _ _ rfl, List.rdropWhile_concat_pos _ _ _ rfl,
    List.rdropWhile_concat_neg _ _ _ (by decide), List.rdropWhile_concat_pos _ _ _ rfl]
  cases digits using List.reverseRecOn with
  | nil => exact absurd rfl proper
  | append_singleton digits c =>
      have notPoint : ¬ (c == '.') = true := by
        intro point
        have digit := isDigit c (by simp)
        rw [beq_iff_eq.1 point] at digit
        cases digit
      rw [← List.append_assoc, List.rdropWhile_concat_neg (· == '.') _ c notPoint]

end Amount

/-- A float that is a whole number other than zero, with its parts. -/
structure IsWholeFloat (x : Float) (d : Dyadic) (normal : Normal) (n : Nat) : Prop where
  read : Dyadic.ofFloat? x = some d
  float : x = normal.toFloat
  sign : normal.sign = if d.negative then .negative else .positive
  holds : normal.Holds n
  numerator : d.numerator = n * d.denominator

/-- A whole float is zero or has the parts of a whole number. -/
theorem isZero_or_exists_isWholeFloat
    {x : Float}
    (whole : Rounding.isWhole x = true) :
    IsZero x ∨ ∃ d normal n, IsWholeFloat x d normal n := by
  unfold Rounding.isWhole at whole
  cases read : Dyadic.ofFloat? x with
  | none =>
      rw [read] at whole
      cases whole
  | some d =>
      rw [read] at whole
      change (d.numerator % d.denominator == 0) = true at whole
      have divides := Nat.dvd_of_mod_eq_zero (beq_iff_eq.1 whole)
      rcases Dyadic.full_or_least read with full | ⟨notFull, least⟩
      · obtain ⟨normal, float, mantissa, exponent, sign⟩ := Dyadic.exists_normal read full
        have numerator := (Nat.div_mul_cancel divides).symm
        refine .inr ⟨d, normal, _, read, float, sign, ?_, numerator⟩
        rw [Normal.Holds, mantissa, exponent]
        exact numerator.symm
      · -- a number below one is no whole number
        have noShift : d.exponent.toNat = 0 := by omega
        have numerator : d.numerator = d.mantissa := by
          rw [Dyadic.numerator, noShift]
          exact Nat.mul_one _
        have denominator : 2 ^ 52 ≤ d.denominator :=
          Nat.pow_le_pow_right (by decide) (by omega : 52 ≤ (-d.exponent).toNat)
        rw [numerator] at divides
        exact .inl (Dyadic.isZero_of_mantissa read
          (Nat.eq_zero_of_dvd_of_lt divides (Nat.lt_of_lt_of_le notFull denominator)))

namespace IsWholeFloat

variable {x : Float} {d : Dyadic} {normal : Normal} {n : Nat} (whole : IsWholeFloat x d normal n)

include whole

theorem truncate_eq : d.truncate = d.signed n := by
  rw [Dyadic.truncate, Dyadic.wholePart, whole.numerator,
    Nat.mul_div_cancel _ d.denominator_pos]

/-- The float is its magnitude with a sign. -/
theorem eq_withSign :
    x = withSign d.negative { normal with sign := .positive : Normal }.toFloat := by
  have sign := whole.sign
  rw [whole.float]
  cases negative : d.negative with
  | false =>
      rw [negative] at sign
      obtain ⟨_, _, _, _, _, _, _⟩ := normal
      cases sign
      rfl
  | true =>
      rw [negative] at sign
      change _ = Float.ofModel (.pack (Float.Model.pack
        { normal with sign := .positive : Normal }.unpacked).unpack.neg)
      rw [Normal.unpack_pack]
      obtain ⟨_, _, _, _, _, _, _⟩ := normal
      cases sign
      rfl

/-- What is shown as a plain whole number fits 64 bits. -/
theorem lt_of_isPlainWhole (plain : Amount.isPlainWhole x = true) : n < 10 ^ 15 := by
  have small : x.abs < 1000000000000000.0 := by
    unfold Amount.isPlainWhole at plain
    exact of_decide_eq_true (Bool.and_eq_true_iff.1 plain).2
  have limit : (1000000000000000.0 : Float).toModel.unpack =
      .finite .positive 8000000000000000 (-3) (by decide) := rfl
  have abs : x.abs.toModel.unpack = { normal with sign := .positive : Normal }.unpacked := by
    rw [whole.float]
    change (Float.Model.pack (Float.Model.pack normal.unpacked).unpack.abs).unpack = _
    rw [Normal.unpack_pack]
    exact Normal.unpack_pack { normal with sign := .positive }
  have compared : x.abs.toModel.unpack.lt (1000000000000000.0 : Float).toModel.unpack = true :=
    of_decide_eq_true small
  rw [abs, limit] at compared
  have before : (compare normal.exponent (-3)).then
      (compare normal.mantissa 8000000000000000) = .lt := by
    change (some ((compare normal.exponent (-3)).then
      (compare normal.mantissa 8000000000000000)) == some .lt) = true at compared
    exact Option.some.inj (eq_of_beq compared)
  have upper := normal.upper
  have holds := whole.holds
  have least := holds.le_exponent
  rcases Ordering.then_eq_lt.1 before with less | ⟨same, less⟩
  · rw [Int.compare_eq_lt] at less
    have noShift : normal.exponent.toNat = 0 := by omega
    have places : n * 2 ^ 4 ≤ n * 2 ^ (-normal.exponent).toNat :=
      Nat.mul_le_mul_left n (Nat.pow_le_pow_right (by decide) (by omega))
    rw [holds, noShift] at places
    omega
  · rw [Int.compare_eq_eq] at same
    rw [Nat.compare_eq_lt] at less
    rw [Normal.Holds, same] at holds
    change n * 8 = normal.mantissa * 1 at holds
    omega

/-- The magnitude, which is the same whole number. -/
theorem magnitude_holds : { normal with sign := .positive : Normal }.Holds n := whole.holds

theorem toWord_eq (fits : n < 10 ^ 15) : Rounding.toWord x = d.signed n := by
  rw [Rounding.toWord, Rounding.toWordBy, whole.read]
  change Rounding.clampWord d.truncate = _
  rw [whole.truncate_eq]
  unfold Rounding.clampWord Rounding.leastWord Rounding.greatestWord Dyadic.signed
  split <;> omega

theorem ofInt_signed : Digits.ofInt (d.signed n) = signedDigits d.negative (Digits.ofNat n) := by
  have pos := whole.holds.pos
  unfold Digits.ofInt Dyadic.signed signedDigits
  cases d.negative with
  | true =>
      have below : -(n : Int) < 0 := by omega
      simp only [if_true, below, Int.natAbs_neg, Int.natAbs_natCast]
      rfl
  | false =>
      have notBelow : ¬ (n : Int) < 0 := by omega
      simp only [Bool.false_eq_true, notBelow, if_false, Int.natAbs_natCast]
      rfl

/-- A plain whole number is shown by its digits. -/
theorem text_of_plain (plain : Amount.isPlainWhole x = true) :
    Amount.text x = signedDigits d.negative (Digits.ofNat n) := by
  rw [Amount.text, if_pos plain, whole.toWord_eq (whole.lt_of_isPlainWhole plain),
    whole.ofInt_signed]

/-- What is stored of a plain whole number is converted back to it. -/
theorem toFloat_ofWord (plain : Amount.isPlainWhole x = true) :
    (Number.ofWord (Rounding.toWord x)).toFloat = x := by
  have fits := whole.lt_of_isPlainWhole plain
  have pos := whole.holds.pos
  have converted := whole.magnitude_holds.toUInt64_toFloat rfl (by omega)
  rw [whole.toWord_eq fits]
  have clamped : Rounding.clampWord (d.signed n) = d.signed n := by
    unfold Rounding.clampWord Rounding.leastWord Rounding.greatestWord Dyadic.signed
    split <;> omega
  change (if Rounding.clampWord (d.signed n) < 0 then
    -(Rounding.clampWord (d.signed n)).natAbs.toUInt64.toFloat
      else (Rounding.clampWord (d.signed n)).natAbs.toUInt64.toFloat) = x
  rw [clamped, whole.eq_withSign]
  unfold Dyadic.signed withSign
  cases d.negative with
  | true =>
      have below : -(n : Int) < 0 := by omega
      simp only [if_true, below, Int.natAbs_neg, Int.natAbs_natCast, converted]
  | false =>
      have notBelow : ¬ (n : Int) < 0 := by omega
      simp only [Bool.false_eq_true, notBelow, if_false, Int.natAbs_natCast, converted]

/-- In units of the last place there is nothing to round. -/
theorem units_eq (places : Nat) : Fixed.units places d = n * 10 ^ places := by
  have exact : n * d.denominator * 10 ^ places = n * 10 ^ places * d.denominator := by ring
  unfold Fixed.units Fixed.divideToEven
  rw [whole.numerator, Nat.pow_eq, exact, Nat.mul_div_cancel _ d.denominator_pos,
    Nat.mul_mod_left, Nat.mul_zero]
  exact if_pos d.denominator_pos

/-- The digits behind the point are dropped. -/
theorem text_of_large (large : Amount.isPlainWhole x = false) :
    Amount.text x = signedDigits d.negative (Digits.ofNat n) := by
  have places : Fixed.padded 2 (Digits.ofNat 0) = ['0', '0'] := rfl
  have pointed : Fixed.pointed 2 d = Digits.ofNat n ++ ['.', '0', '0'] := by
    unfold Fixed.pointed
    simp only [whole.units_eq, Nat.pow_eq]
    rw [Nat.mul_div_cancel _ (by decide), Nat.mul_mod_left, places]
    simp
  rw [Amount.text, large, Fixed.text, whole.read]
  change Amount.dropEnd '.' (Amount.dropEnd '0' (_ ++ Fixed.pointed 2 d)) = _
  rw [pointed]
  exact Amount.dropEnd_places _ (Digits.ofNat_ne_nil n) fun c => Digits.isDigit_of_mem_ofNat

/-- Every whole number is shown by its digits. -/
theorem text_eq : Amount.text x = signedDigits d.negative (Digits.ofNat n) := by
  cases plain : Amount.isPlainWhole x with
  | true => exact whole.text_of_plain plain
  | false => exact whole.text_of_large plain

/-- Every whole number is shown by its digits, also as a result. -/
theorem resultText_eq : Amount.resultText x = signedDigits d.negative (Digits.ofNat n) := by
  unfold Amount.resultText Value.ofAmount
  cases plain : Amount.isPlainWhole x with
  | true =>
      change Amount.text (Number.ofWord (Rounding.toWord x)).toFloat = _
      rw [whole.toFloat_ofWord plain, whole.text_eq]
  | false =>
      have finite : x.isFinite = true := by
        rw [whole.float]
        change (Float.Model.pack normal.unpacked).unpack.isFinite = true
        rw [Normal.unpack_pack]
        rfl
      have stored : Number.ofFloat? x = some (.real x finite) := dif_pos finite
      rw [stored]
      exact whole.text_eq

end IsWholeFloat

end CharacterSheet
