import CharacterSheet.Proofs.Decimal.Distance

/-!
# Numbers are finite amounts

A float is stored as an infinity only if its exponent is beyond the range (`Unpacked.InRange`).
Rounding a whole number of 64 bits stays far within it, so every number of a record is a finite
amount (`Number.isFinite_toFloat`), and any two have a difference.
-/

namespace CharacterSheet

open Float.Model
open Float.Model.UnpackedFloat (Sign Accuracy ExtendedMantissa)

namespace Unpacked

/-- A zero, or a float with an exponent that can be stored. -/
def InRange : UnpackedFloat → Prop
  | .zero _ => True
  | .finite _ _ exponent _ => exponent ≤ 971
  | .infinity _ => False
  | .notANumber => False

/-- What is in range is stored as a finite float. -/
theorem InRange.isFinite_pack
    {a : UnpackedFloat}
    (inRange : InRange a) :
    (Float.Model.pack a).unpack.isFinite = true := by
  cases a with
  | notANumber | infinity => cases inRange
  | zero sign => cases sign <;> rfl
  | finite sign mantissa exponent pos =>
      obtain ⟨stored, fraction, packed, beyond⟩ := exists_pack_finite exponent pos
      change (UnpackedFloat.unpack .binary64 (UnpackedFloat.pack .binary64 _)).isFinite = true
      rw [packed]
      exact isFinite_unpack_packComponents
        (fun last => Int.not_lt.2 inRange (beyond last).2) sign fraction

/-- What is stored of a finite float is in range. -/
theorem inRange_of_isFinite
    {x : Float}
    (finite : x.isFinite = true) :
    InRange x.toModel.unpack := by
  change (UnpackedFloat.unpack .binary64 x.toModel.toBits.toBitVec).isFinite = true at finite
  change InRange (UnpackedFloat.unpack .binary64 x.toModel.toBits.toBitVec)
  unfold UnpackedFloat.unpack at finite ⊢
  dsimp only at finite ⊢
  generalize @UnpackedFloat.unpackExponent .binary64 x.toModel.toBits.toBitVec = stored at finite ⊢
  by_cases last : stored = -1#_
  · rw [if_pos last] at finite
    split at finite <;> cases finite
  · have below : stored.toNat < 2047 := by
      have bound := stored.isLt
      have differs : stored.toNat ≠ 2047 := fun same => last (BitVec.eq_of_toNat_eq same)
      change stored.toNat < 2048 at bound
      omega
    rw [if_neg last]
    split
    · next first =>
        rw [first]
        split
        · trivial
        · exact Int.le_of_lt (by decide)
    · change (stored.toNat : Int) - (1023 + 52) ≤ 971
      omega

/-- The sign does not matter. -/
theorem InRange.neg
    {a : UnpackedFloat}
    (inRange : InRange a) :
    InRange a.neg := by
  cases a with
  | notANumber | infinity => cases inRange
  | zero => trivial
  | finite => exact inRange

/-- Floats in range have a difference. -/
theorem InRange.sub_ne_notANumber
    {a b : UnpackedFloat}
    (first : InRange a)
    (second : InRange b) :
    UnpackedFloat.sub .binary64 a b ≠ .notANumber := by
  cases a with
  | notANumber | infinity => cases first
  | zero sign =>
      cases b with
      | notANumber | infinity => cases second
      | zero other => cases sign <;> cases other <;> exact nofun
      | finite => exact nofun
  | finite sign mantissa exponent pos =>
      cases b with
      | notANumber | infinity => cases second
      | zero => exact nofun
      | finite => exact normalize_ne_notANumber _ _

/-- Shifting out bits halves the mantissa each time. -/
theorem mantissa_shiftRight (extended : ExtendedMantissa) (places : Nat) :
    (extended >>> places).mantissa ≤ extended.mantissa := by
  induction places with
  | zero => exact Nat.le_refl _
  | succ places inductionHypothesis =>
      change (ExtendedMantissa.shiftRightOne (extended >>> places)).mantissa ≤ _
      exact Nat.le_trans (Nat.div_le_self _ 2) inductionHypothesis

/-- Rounding adds at most one. -/
theorem roundedMantissa_le (extended : ExtendedMantissa) :
    extended.roundedMantissa ≤ extended.mantissa + 1 := by
  unfold ExtendedMantissa.roundedMantissa
  generalize extended.accuracy = accuracy
  rcases accuracy with _ | (_ | _ | _)
  · exact Nat.le_succ _
  · exact Nat.le_succ _
  · change _ + _ % 2 ≤ _
    omega
  · exact Nat.le_refl _

/-- A shift brings the exponent up only as far as the mantissa has bits. -/
theorem shiftToTargetExponent_le
    {mantissa bits : Nat}
    {exponent bound : Int}
    (small : mantissa < 2 ^ bits)
    (accuracy : Accuracy)
    (low : exponent ≤ bound)
    (least : -1074 ≤ bound)
    (fits : bits + exponent ≤ bound + 53) :
    (UnpackedFloat.shiftToTargetExponent .binary64 mantissa exponent accuracy).2 ≤ bound := by
  have log2 : (mantissa.log2 : Int) + 1 + exponent - 53 ≤ bound := by
    rcases Nat.eq_zero_or_pos mantissa with rfl | pos
    · rw [Nat.log2_zero]
      omega
    · have := (Nat.log2_lt (Nat.ne_of_gt pos)).2 small
      omega
  change exponent + ((max ((mantissa.log2 : Int) + 1 + exponent - 53) (-1074) - exponent).toNat :
    Int) ≤ bound
  omega

/-- A whole number of 64 bits is rounded to a float in range. -/
theorem inRange_round
    {n : Nat}
    (fits : n < 2 ^ 64)
    (sign : Sign) :
    InRange (UnpackedFloat.round .binary64 sign n 0) := by
  have least : -52 ≤ Format.binary64.targetExponent (totalExponent n 0) := by
    change -52 ≤ max ((n.log2 : Int) + 1 + 0 - 53) (-1074)
    omega
  unfold UnpackedFloat.round UnpackedFloat.decreaseExponent UnpackedFloat.roundWithAccuracy
  dsimp only
  generalize places : (0 - Format.binary64.targetExponent (totalExponent n 0)).toNat = k
  have few : k ≤ 52 := by omega
  -- the mantissa with zeros behind it, then what is left of it, and then that rounded
  have scaled : n <<< k < 2 ^ 116 := by
    calc n <<< k = n * 2 ^ k := Nat.shiftLeft_eq n k
      _ < 2 ^ 64 * 2 ^ k := Nat.mul_lt_mul_of_pos_right fits (Nat.two_pow_pos k)
      _ ≤ 2 ^ 64 * 2 ^ 52 := Nat.mul_le_mul_left _ (Nat.pow_le_pow_right (by decide) few)
      _ = 2 ^ 116 := by decide
  have first : (UnpackedFloat.shiftToTargetExponent .binary64 (n <<< k) (0 - k) .exact).2 ≤ 63 :=
    shiftToTargetExponent_le scaled .exact (by omega) (by decide) (by omega)
  have left : (UnpackedFloat.shiftToTargetExponent .binary64 (n <<< k) (0 - k)
      .exact).1.mantissa ≤ n <<< k := mantissa_shiftRight _ _
  generalize UnpackedFloat.shiftToTargetExponent .binary64 (n <<< k) (0 - k) .exact = shifted
    at first left ⊢
  obtain ⟨extended, exponent⟩ := shifted
  have rounded : extended.roundedMantissa < 2 ^ 117 := by
    have := roundedMantissa_le extended
    dsimp only at left
    omega
  have second : (UnpackedFloat.shiftToTargetExponent .binary64 extended.roundedMantissa exponent
      .exact).2 ≤ 127 :=
    shiftToTargetExponent_le rounded .exact (by omega) (by decide) (by omega)
  dsimp only at second ⊢
  split
  · trivial
  · exact Int.le_trans second (by decide)

end Unpacked

/-- The opposite of a finite float is finite. -/
theorem isFinite_neg
    {x : Float}
    (finite : x.isFinite = true) :
    (-x).isFinite = true :=
  (Unpacked.inRange_of_isFinite finite).neg.isFinite_pack

/-- Finite amounts have a difference. -/
theorem isNaN_sub_of_isFinite
    {x y : Float}
    (first : x.isFinite = true)
    (second : y.isFinite = true) :
    (x - y).isNaN = false := by
  rw [← Bool.not_eq_true, isNaN_sub_iff]
  exact (Unpacked.inRange_of_isFinite first).sub_ne_notANumber
    (Unpacked.inRange_of_isFinite second)

/-- A whole number of 64 bits is a finite amount. -/
theorem isFinite_toFloat_word (word : UInt64) : word.toFloat.isFinite = true := by
  refine Unpacked.InRange.isFinite_pack (a := UnpackedFloat.ofUInt64 .binary64 word) ?_
  unfold UnpackedFloat.ofUInt64 UnpackedFloat.ofNat UnpackedFloat.ofInt UnpackedFloat.normalize
  split
  · exact Unpacked.inRange_round (by have := word.toNat_lt; omega) .negative
  · trivial
  · exact Unpacked.inRange_round word.toNat_lt .positive

/-- A number is a finite amount. -/
theorem Number.isFinite_toFloat (n : Number) : n.toFloat.isFinite = true := by
  cases n with
  | real x finite => exact finite
  | integer n least most =>
      rw [Number.toFloat]
      split
      · exact isFinite_neg (isFinite_toFloat_word _)
      · exact isFinite_toFloat_word _

end CharacterSheet
