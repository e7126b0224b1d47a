import CharacterSheet.Decimal.Dyadic
import Mathlib

/-!
# Whole numbers that floats hold exactly

A normal float is a mantissa of 53 bits and an exponent (`Normal`). The exact fraction of a float
with a full mantissa is that of such a float (`Dyadic.exists_normal`), and rounding gives it back
from every way of writing its number as a whole number with a power of two
(`Normal.roundWithAccuracy_eq`). So a whole number that a float holds is converted and read to
that float (`Normal.Holds.toUInt64_toFloat`, `Normal.Holds.ofScientific_eq`).
-/

namespace CharacterSheet

open Float.Model
open Float.Model.UnpackedFloat (Sign)

theorem log2_mul_two_pow
    {n : Nat}
    (pos : 0 < n)
    (places : Nat) :
    (n * 2 ^ places).log2 = n.log2 + places := by
  have positive := Nat.mul_pos pos (Nat.two_pow_pos places)
  refine (Nat.log2_eq_iff (Nat.ne_of_gt positive)).2 ⟨?_, ?_⟩
  · rw [Nat.pow_add]
    exact Nat.mul_le_mul_right _ (Nat.log2_self_le (Nat.ne_of_gt pos))
  · rw [Nat.add_right_comm, Nat.pow_add]
    exact Nat.mul_lt_mul_of_pos_right Nat.lt_log2_self (Nat.two_pow_pos places)

/-- The parts of a normal float: a mantissa of 53 bits and an exponent in range. -/
structure Normal where
  sign : Sign
  mantissa : Nat
  exponent : Int
  lower : 2 ^ 52 ≤ mantissa
  upper : mantissa < 2 ^ 53
  least : -1074 ≤ exponent
  most : exponent ≤ 971

namespace Normal

variable (normal : Normal)

theorem mantissa_pos : 0 < normal.mantissa :=
  Nat.lt_of_lt_of_le (by decide) normal.lower

/-- The float with these parts, unpacked. -/
def unpacked : UnpackedFloat :=
  .finite normal.sign normal.mantissa normal.exponent normal.mantissa_pos

/-- The float with these parts. -/
def toFloat : Float := .ofModel (.pack normal.unpacked)

theorem log2_mantissa : normal.mantissa.log2 = 52 :=
  (Nat.log2_eq_iff (Nat.ne_of_gt normal.mantissa_pos)).2 ⟨normal.lower, normal.upper⟩

/-- The exponent as it is stored. -/
def biased : Nat := (normal.exponent + 1075).toNat

theorem biased_pos : 0 < normal.biased := by
  have := normal.least
  unfold biased
  omega

theorem biased_lt : normal.biased < 2047 := by
  have := normal.most
  unfold biased
  omega

theorem toNat_biased : (BitVec.ofNat 11 normal.biased).toNat = normal.biased :=
  Nat.mod_eq_of_lt (Nat.lt_trans normal.biased_lt (by decide))

theorem ofNat_biased_ne
    {other : BitVec 11}
    (differs : normal.biased ≠ other.toNat) :
    BitVec.ofNat 11 normal.biased ≠ other := by
  rintro rfl
  exact differs normal.toNat_biased.symm

/-- The first bit of the mantissa is not stored. -/
theorem toNat_mantissa : (1#1 ++ BitVec.ofNat 52 normal.mantissa).toNat = normal.mantissa := by
  have lower := normal.lower
  have upper := normal.upper
  have below : normal.mantissa % 2 ^ 52 < 2 ^ 52 := Nat.mod_lt _ (by decide)
  rw [BitVec.toNat_append, BitVec.toNat_ofNat, BitVec.toNat_ofNat,
    ← Nat.shiftLeft_add_eq_or_of_lt below]
  change 2 ^ 52 + normal.mantissa % 2 ^ 52 = _
  omega

theorem pack_unpacked :
    UnpackedFloat.pack .binary64 normal.unpacked =
      UnpackedFloat.packComponents .binary64 normal.sign (BitVec.ofNat 11 normal.biased)
        (BitVec.ofNat 52 normal.mantissa) := by
  have stored : (normal.exponent + (Format.binary64.exponentBias : Nat) +
      (Format.binary64.mantissaBitsWithoutImplicit : Nat)).toNat = normal.biased := by
    change (normal.exponent + 1023 + 52).toNat = (normal.exponent + 1075).toNat
    congr 1
    omega
  have inRange : ¬ 2 ^ Format.binary64.exponentBits ≤ normal.biased + 1 := by
    have := normal.biased_lt
    change ¬ 2048 ≤ _
    omega
  have full : normal.mantissa.log2 + 1 = Format.binary64.mantissaBits := by
    rw [log2_mantissa]
    rfl
  unfold unpacked UnpackedFloat.pack
  simp only [stored]
  rw [if_neg inRange, if_pos full]

/-- Its parts are unpacked again. -/
theorem unpack_pack : (Float.Model.pack normal.unpacked).unpack = normal.unpacked := by
  change UnpackedFloat.unpack .binary64 (UnpackedFloat.pack .binary64 normal.unpacked) = _
  have notLast : BitVec.ofNat 11 normal.biased ≠ -1#_ :=
    normal.ofNat_biased_ne (Nat.ne_of_lt normal.biased_lt)
  have notFirst : BitVec.ofNat 11 normal.biased ≠ 0#_ :=
    normal.ofNat_biased_ne (Nat.ne_of_gt normal.biased_pos)
  have mantissa := normal.toNat_mantissa
  rw [pack_unpacked, UnpackedFloat.unpack]
  simp only [UnpackedFloat.unpackMantissa_packComponents,
    UnpackedFloat.unpackExponent_packComponents, UnpackedFloat.unpackSign_packComponents,
    Sign.ofBitVec_toBitVec]
  rw [if_neg notLast, if_neg notFirst]
  have exponent : ((BitVec.ofNat 11 normal.biased).toNat : Int) -
      ((Format.binary64.exponentBias : Nat) + (Format.binary64.mantissaBitsWithoutImplicit : Nat)) =
      normal.exponent := by
    have := normal.least
    rw [toNat_biased]
    change (normal.exponent + 1075).toNat - (1023 + 52 : Int) = _
    omega
  unfold unpacked
  congr 1

/-- The bit of the sign. -/
def signBit : Nat := normal.sign.toBitVec.toNat

/-- The bits of sign, exponent and mantissa side by side; the first bit of the mantissa is not
stored. -/
theorem toBits_toFloat :
    normal.toFloat.toBits.toNat =
      normal.signBit * 2 ^ 63 + normal.biased * 2 ^ 52 +
        (normal.mantissa - 2 ^ 52) := by
  have lower := normal.lower
  have upper := normal.upper
  have small := normal.biased_lt
  have below : normal.mantissa % 2 ^ 52 < 2 ^ 52 := Nat.mod_lt _ (by decide)
  have exponentBelow : normal.biased % 2 ^ 11 < 2 ^ 11 := Nat.mod_lt _ (by decide)
  change (UnpackedFloat.pack .binary64 normal.unpacked).toNat = _
  rw [pack_unpacked]
  change (normal.sign.toBitVec ++ BitVec.ofNat 11 normal.biased ++
    BitVec.ofNat 52 normal.mantissa).toNat = _
  rw [BitVec.toNat_append, BitVec.toNat_append, BitVec.toNat_ofNat, BitVec.toNat_ofNat,
    ← Nat.shiftLeft_add_eq_or_of_lt exponentBelow, ← Nat.shiftLeft_add_eq_or_of_lt below,
    Nat.shiftLeft_eq, Nat.shiftLeft_eq]
  rw [← signBit]
  omega

end Normal

/-- A float whose mantissa is full has its parts. -/
theorem Dyadic.exists_normal
    {x : Float}
    {d : Dyadic}
    (read : Dyadic.ofFloat? x = some d)
    (full : 2 ^ 52 ≤ d.mantissa) :
    ∃ normal : Normal, x = normal.toFloat ∧ normal.mantissa = d.mantissa ∧
      normal.exponent = d.exponent ∧
      normal.sign = if d.negative then .negative else .positive := by
  have bound : x.toBits.toNat < 2 ^ 64 := x.toBits.toNat_lt
  unfold Dyadic.ofFloat? at read
  simp only [Nat.pow_eq, beq_iff_eq] at read
  split at read
  · cases read
  · next notLast =>
      split at read
      · cases read
        have below : x.toBits.toNat % 2 ^ 52 < 2 ^ 52 := Nat.mod_lt _ (by decide)
        exact absurd full (Nat.not_le.2 below)
      · next notFirst =>
          cases read
          let normal : Normal :=
            { sign := if x.toBits.toNat / 2 ^ 63 == 1 then .negative else .positive
              mantissa := 2 ^ 52 + x.toBits.toNat % 2 ^ 52
              exponent := (x.toBits.toNat / 2 ^ 52 % 2 ^ 11 : Nat) - 1075
              lower := by omega
              upper := by omega
              least := by omega
              most := by omega }
          have biased : normal.biased = x.toBits.toNat / 2 ^ 52 % 2 ^ 11 := by
            change ((x.toBits.toNat / 2 ^ 52 % 2 ^ 11 : Nat) - 1075 + 1075 : Int).toNat = _
            omega
          have signBit : normal.signBit = x.toBits.toNat / 2 ^ 63 := by
            change (Sign.toBitVec (if x.toBits.toNat / 2 ^ 63 == 1 then _ else _)).toNat = _
            split
            · next isNegative => exact (beq_iff_eq.1 isNegative).symm
            · next notNegative =>
                rw [beq_iff_eq] at notNegative
                change 0 = _
                omega
          refine ⟨normal, Float.toBits_inj.1 (UInt64.toNat_inj.1 ?_), rfl, rfl, rfl⟩
          rw [normal.toBits_toFloat, biased, signBit]
          change _ = _ + _ + (2 ^ 52 + x.toBits.toNat % 2 ^ 52 - 2 ^ 52)
          omega

namespace Normal

open Float.Model.UnpackedFloat

variable (normal : Normal)

/-- Shifting out zeros loses nothing. -/
theorem shiftRight_exact (mantissa places : Nat) :
    ExtendedMantissa.ofMantissaAndAccuracy (mantissa * 2 ^ places) .exact >>> places =
      ExtendedMantissa.ofMantissaAndAccuracy mantissa .exact := by
  induction places generalizing mantissa with
  | zero =>
      rw [Nat.pow_zero, Nat.mul_one]
      rfl
  | succ places inductionHypothesis =>
      have moved : mantissa * 2 ^ (places + 1) = mantissa * 2 * 2 ^ places := by ring
      change ExtendedMantissa.shiftRightOne
        (ExtendedMantissa.ofMantissaAndAccuracy (mantissa * 2 ^ (places + 1)) .exact >>> places) = _
      rw [moved, inductionHypothesis]
      simp [ExtendedMantissa.shiftRightOne, ExtendedMantissa.ofMantissaAndAccuracy]

theorem targetExponent_eq (places : Nat) :
    Format.binary64.targetExponent
      (totalExponent (normal.mantissa * 2 ^ places) (normal.exponent - places)) =
      normal.exponent := by
  have log2 : (normal.mantissa * 2 ^ places).log2 = 52 + places := by
    rw [log2_mul_two_pow normal.mantissa_pos, log2_mantissa]
  have least := normal.least
  rw [totalExponent, log2, Format.targetExponent]
  change max (((52 + places : Nat) : Int) + 1 + (normal.exponent - places) - 53) (-1074) = _
  omega

/-- Zeros at the end of a mantissa are rounded away. -/
theorem roundWithAccuracy_eq (places : Nat) :
    roundWithAccuracy .binary64 normal.sign (normal.mantissa * 2 ^ places)
      (normal.exponent - places) .exact = normal.unpacked := by
  have shifted (places : Nat) :
      shiftToTargetExponent .binary64 (normal.mantissa * 2 ^ places) (normal.exponent - places)
        .exact = (ExtendedMantissa.ofMantissaAndAccuracy normal.mantissa .exact,
          normal.exponent) := by
    have amount : (normal.exponent - (normal.exponent - places)).toNat = places := by omega
    rw [shiftToTargetExponent, targetExponent_eq, shiftToExponent, amount, shiftRight_exact]
    simp
  have again := shifted 0
  rw [Nat.pow_zero, Nat.mul_one, Nat.cast_zero, Int.sub_zero] at again
  have rounded : (ExtendedMantissa.ofMantissaAndAccuracy normal.mantissa .exact).roundedMantissa =
      normal.mantissa := rfl
  rw [roundWithAccuracy, shifted]
  simp only [rounded, again]
  exact dif_neg (Nat.ne_of_gt normal.mantissa_pos)

/-- The magnitude of the float is a whole number. -/
def Holds (n : Nat) : Prop :=
  n * 2 ^ (-normal.exponent).toNat = normal.mantissa * 2 ^ normal.exponent.toNat

namespace Holds

variable {normal} {n : Nat} (holds : normal.Holds n)

include holds

theorem pos : 0 < n := by
  refine Nat.pos_of_ne_zero fun zero => ?_
  rw [Holds, zero, Nat.zero_mul] at holds
  exact Nat.ne_of_gt (Nat.mul_pos normal.mantissa_pos (Nat.two_pow_pos _)) holds.symm

/-- A whole number has no more places behind the point than the mantissa has bits. -/
theorem le_exponent : -52 ≤ normal.exponent := by
  by_contra small
  have places : 53 ≤ (-normal.exponent).toNat := by omega
  have none : normal.exponent.toNat = 0 := by omega
  have large : 1 * 2 ^ 53 ≤ n * 2 ^ (-normal.exponent).toNat :=
    Nat.mul_le_mul holds.pos (Nat.pow_le_pow_right (by decide) places)
  have upper := normal.upper
  rw [holds, none] at large
  omega

/-- Eight numbers have three bits, so there are fewer digits than thirds of bits. -/
theorem lt_ten_pow
    {digits : Nat}
    (enough : 53 + normal.exponent.toNat ≤ 3 * digits) :
    n < 10 ^ digits :=
  calc n = n * 1 := (Nat.mul_one n).symm
    _ ≤ n * 2 ^ (-normal.exponent).toNat := Nat.mul_le_mul_left n (Nat.two_pow_pos _)
    _ = normal.mantissa * 2 ^ normal.exponent.toNat := holds
    _ < 2 ^ 53 * 2 ^ normal.exponent.toNat :=
      Nat.mul_lt_mul_of_pos_right normal.upper (Nat.two_pow_pos _)
    _ = 2 ^ (53 + normal.exponent.toNat) := (Nat.pow_add 2 53 _).symm
    _ ≤ 2 ^ (3 * digits) := Nat.pow_le_pow_right (by decide) enough
    _ = (2 ^ 3) ^ digits := Nat.pow_mul 2 3 digits
    _ ≤ 10 ^ digits := Nat.pow_le_pow_left (by decide) digits

theorem log2_eq : (n.log2 : Int) = 52 + normal.exponent := by
  have both := congrArg Nat.log2 holds
  rw [log2_mul_two_pow holds.pos, log2_mul_two_pow normal.mantissa_pos, log2_mantissa] at both
  omega

theorem round_eq : round .binary64 normal.sign n 0 = normal.unpacked := by
  have least := holds.le_exponent
  have target : Format.binary64.targetExponent (totalExponent n 0) = normal.exponent := by
    rw [totalExponent, holds.log2_eq, Format.targetExponent]
    change max (52 + normal.exponent + 1 + 0 - 53) (-1074) = _
    omega
  have exponent : (0 : Int) - (0 - normal.exponent).toNat =
      normal.exponent - normal.exponent.toNat := by
    omega
  have mantissa : n <<< (0 - normal.exponent).toNat =
      normal.mantissa * 2 ^ normal.exponent.toNat := by
    rw [Nat.shiftLeft_eq, Int.zero_sub]
    exact holds
  rw [UnpackedFloat.round, target, decreaseExponent]
  simp only [exponent, mantissa]
  exact normal.roundWithAccuracy_eq _

variable (positive : normal.sign = .positive)

include positive

/-- The whole number is converted to the float. -/
theorem toUInt64_toFloat (fits : n < 2 ^ 64) : n.toUInt64.toFloat = normal.toFloat := by
  have word : n.toUInt64.toNat = n := UInt64.toNat_ofNat_of_lt' fits
  have above : compare (n : Int) 0 = .gt := Int.compare_eq_gt.2 (by have := holds.pos; omega)
  have converted : UnpackedFloat.ofUInt64 .binary64 n.toUInt64 = normal.unpacked := by
    rw [UnpackedFloat.ofUInt64, UnpackedFloat.ofNat, UnpackedFloat.ofInt,
      UnpackedFloat.normalize, word, above]
    have rounded := holds.round_eq
    rw [positive] at rounded
    exact rounded
  exact congrArg (fun unpacked => Float.ofModel (.pack unpacked)) converted

/-- The whole number is read as the float. -/
theorem ofScientific_eq : Float.ofScientific n false 0 = normal.toFloat := by
  have exact (unpacked : UnpackedFloat) (same : unpacked = normal.unpacked) :
      Float.ofModel (.pack unpacked) = normal.toFloat := same ▸ rfl
  unfold Float.ofScientific
  split
  · next short =>
      -- a short number is converted and multiplied by one
      change n.toUInt64.toFloat * Float.ofBits 0x3FF0000000000000 = _
      rw [holds.toUInt64_toFloat positive (by omega)]
      refine exact _ ?_
      change UnpackedFloat.mul .binary64 (Float.Model.pack normal.unpacked).unpack
        (.finite .positive (2 ^ 52) (-52) (by decide)) = _
      rw [unpack_pack]
      have rounded := normal.roundWithAccuracy_eq 52
      rw [positive] at rounded
      rw [unpacked, positive]
      exact rounded.trans (by rw [unpacked, positive])
  · -- a long one has 53 more bits behind the point
      refine exact _ ?_
      have least := holds.le_exponent
      have some := Nat.ne_of_gt holds.pos
      have scaled : n <<< 53 * 10 ^ 0 = normal.mantissa * 2 ^ (normal.exponent + 53).toNat := by
        have places : (normal.exponent + 53).toNat + (-normal.exponent).toNat =
            normal.exponent.toNat + 53 := by
          omega
        rw [Nat.shiftLeft_eq, Nat.pow_zero, Nat.mul_one]
        refine Nat.eq_of_mul_eq_mul_right (Nat.two_pow_pos (-normal.exponent).toNat) ?_
        rw [Nat.mul_assoc normal.mantissa, ← Nat.pow_add, places, Nat.pow_add,
          ← Nat.mul_assoc normal.mantissa, ← holds]
        ring
      have exponent : (-53 : Int) + 0 = normal.exponent - (normal.exponent + 53).toNat := by omega
      have rounded := normal.roundWithAccuracy_eq (normal.exponent + 53).toNat
      rw [positive, ← scaled, ← exponent] at rounded
      rw [UnpackedFloat.ofScientific, dif_neg some, if_neg (by decide), if_neg ?_,
        if_pos (by decide)]
      · exact rounded
      · change ¬ (0 : Int) < -(2 ^ 11 + (n.log2 : Int))
        omega

end Holds

end Normal

end CharacterSheet
