import CharacterSheet.Value.Comparison
import CharacterSheet.Proofs.Decimal.Exact

/-!
# Amounts up to the tolerance

The order of amounts asks for their difference first. The difference the other way round is the
same but for its sign, so the order is antisymmetric wherever there is a difference at all: it
fails exactly where the difference is NaN (`compareAmounts_swap_iff`), and then both orders are
`.gt`. That is so for NaN, and for an infinity and itself, so the finite amounts are those that
are equal to themselves (`compareAmounts_self_iff`).
-/

namespace CharacterSheet

open Float.Model
open Float.Model.UnpackedFloat (Sign)

namespace Unpacked

/-- One of two floats is below the other. -/
def Apart (a b : UnpackedFloat) : Prop := a.compare b = some .lt ∨ a.compare b = some .gt

/-- Only the sign that is packed is not seen in a magnitude. -/
theorem abs_unpack_packComponents
    (sign : Sign)
    (exponent : BitVec 11)
    (mantissa : BitVec 52) :
    (UnpackedFloat.unpack .binary64
        (UnpackedFloat.packComponents .binary64 sign exponent mantissa)).abs =
      UnpackedFloat.unpack .binary64
        (UnpackedFloat.packComponents .binary64 .positive exponent mantissa) := by
  unfold UnpackedFloat.unpack
  simp only [UnpackedFloat.unpackMantissa_packComponents,
    UnpackedFloat.unpackExponent_packComponents, UnpackedFloat.unpackSign_packComponents,
    Sign.ofBitVec_toBitVec]
  by_cases last : exponent = -1#_
  · rw [if_pos last, if_pos last]
    split <;> rfl
  · rw [if_neg last, if_neg last]
    by_cases first : exponent = 0#_
    · rw [if_pos first, if_pos first]
      split <;> rfl
    · rw [if_neg first, if_neg first]
      rfl

/-- The sign of a finite float is stored beside the rest of it. Only what is out of range is stored
with the greatest exponent, as an infinity. -/
theorem exists_pack_finite
    {mantissa : Nat}
    (exponent : Int)
    (pos : 0 < mantissa) :
    ∃ stored fraction,
      (∀ sign, UnpackedFloat.pack .binary64 (.finite sign mantissa exponent pos) =
        UnpackedFloat.packComponents .binary64 sign stored fraction) ∧
      (stored = -1#_ → fraction = 0#_ ∧ 971 < exponent) := by
  have bias : (exponent + (Format.binary64.exponentBias : Nat) + (52 : Nat)).toNat =
      (exponent + 1075).toNat := by
    change (exponent + 1023 + 52).toNat = _
    congr 1
    omega
  unfold UnpackedFloat.pack
  dsimp only
  rw [bias]
  by_cases beyond : 2 ^ 11 ≤ (exponent + 1075).toNat + 1
  · refine ⟨-1#_, 0#_, fun sign => by rw [if_pos beyond]; rfl, fun _ => ⟨rfl, by omega⟩⟩
  · have within (stored : Nat) (below : stored + 1 < 2 ^ 11) :
        BitVec.ofNat 11 stored ≠ -1#_ := by
      intro last
      have value := congrArg BitVec.toNat last
      rw [BitVec.toNat_ofNat, Nat.mod_eq_of_lt (by omega)] at value
      change stored = 2047 at value
      omega
    by_cases full : mantissa.log2 + 1 = Format.binary64.mantissaBits
    · refine ⟨_, _, fun sign => by rw [if_neg beyond, if_pos full], fun last => ?_⟩
      exact absurd last (within _ (by omega))
    · refine ⟨_, _, fun sign => by rw [if_neg beyond, if_neg full], fun last => ?_⟩
      exact absurd last (by decide)

/-- What is not stored with the greatest exponent is finite. -/
theorem isFinite_unpack_packComponents
    {exponent : BitVec 11}
    (notLast : exponent ≠ -1#_)
    (sign : Sign)
    (mantissa : BitVec 52) :
    (UnpackedFloat.unpack .binary64
      (UnpackedFloat.packComponents .binary64 sign exponent mantissa)).isFinite = true := by
  unfold UnpackedFloat.unpack
  simp only [UnpackedFloat.unpackMantissa_packComponents,
    UnpackedFloat.unpackExponent_packComponents]
  rw [if_neg notLast]
  split
  · split <;> rfl
  · rfl

/-- Packing and unpacking keeps magnitudes apart from signs. -/
theorem abs_unpack_pack (a : UnpackedFloat) :
    (Float.Model.pack a).unpack.abs = (Float.Model.pack a.abs).unpack := by
  cases a with
  | notANumber => rfl
  | infinity sign | zero sign => cases sign <;> rfl
  | finite sign mantissa exponent pos =>
      obtain ⟨stored, fraction, packed, -⟩ := exists_pack_finite exponent pos
      change (UnpackedFloat.unpack .binary64 (UnpackedFloat.pack .binary64 _)).abs =
        UnpackedFloat.unpack .binary64 (UnpackedFloat.pack .binary64 _)
      rw [packed, UnpackedFloat.abs, packed, abs_unpack_packComponents]

/-- Rounding keeps the sign out of the magnitude. -/
theorem abs_round (sign : Sign) (mantissa : Nat) (exponent : Int) :
    (UnpackedFloat.round .binary64 sign mantissa exponent).abs =
      UnpackedFloat.round .binary64 .positive mantissa exponent := by
  unfold UnpackedFloat.round UnpackedFloat.roundWithAccuracy
  dsimp only
  split <;> rfl

/-- A number and its opposite have the same magnitude. -/
theorem abs_normalize_neg (mantissa exponent : Int) :
    (UnpackedFloat.normalize .binary64 (-mantissa) exponent .positive).abs =
      (UnpackedFloat.normalize .binary64 mantissa exponent .positive).abs := by
  unfold UnpackedFloat.normalize
  rcases Int.lt_trichotomy mantissa 0 with negative | rfl | positive
  · rw [Int.compare_eq_lt.2 negative, Int.compare_eq_gt.2 (by omega)]
    dsimp only
    rw [abs_round, abs_round]
  · rfl
  · rw [Int.compare_eq_gt.2 positive, Int.compare_eq_lt.2 (by omega)]
    dsimp only
    rw [abs_round, abs_round, Int.neg_neg]

/-- A difference the other way round differs at most in its sign. -/
theorem abs_sub_comm (a b : UnpackedFloat) :
    (UnpackedFloat.sub .binary64 a b).abs = (UnpackedFloat.sub .binary64 b a).abs := by
  cases a with
  | notANumber => cases b <;> rfl
  | infinity sign =>
      cases b with
      | infinity other => cases sign <;> cases other <;> rfl
      | notANumber | zero | finite => rfl
  | zero sign =>
      cases b with
      | zero other => cases sign <;> cases other <;> rfl
      | notANumber | infinity | finite => rfl
  | finite sign mantissa exponent pos =>
      cases b with
      | notANumber | infinity | zero => rfl
      | finite other otherMantissa otherExponent otherPos =>
          unfold UnpackedFloat.sub
          dsimp only
          rw [Int.min_comm otherExponent exponent, ← abs_normalize_neg, Int.neg_sub]

/-- The order the other way round. -/
theorem compare_swap (a b : UnpackedFloat) :
    b.compare a = (a.compare b).map Ordering.swap := by
  have parts (e f : Int) (m n : Nat) :
      (compare f e).then (compare n m) = ((compare e f).then (compare m n)).swap := by
    rw [Ordering.swap_then, Int.compare_swap, Nat.compare_swap]
  cases a with
  | notANumber => cases b <;> rfl
  | infinity sign =>
      cases b with
      | infinity other => cases sign <;> cases other <;> rfl
      | notANumber => cases sign <;> rfl
      | zero other => cases sign <;> rfl
      | finite other => cases sign <;> cases other <;> rfl
  | zero sign =>
      cases b with
      | infinity other | finite other => cases other <;> rfl
      | notANumber | zero => rfl
  | finite sign mantissa exponent pos =>
      cases b with
      | notANumber => cases sign <;> rfl
      | zero => cases sign <;> rfl
      | infinity other => cases sign <;> cases other <;> rfl
      | finite other =>
          cases sign <;> cases other
          · exact congrArg (fun order => some (Ordering.swap order)) (parts _ _ _ _)
          · rfl
          · rfl
          · exact congrArg some (parts _ _ _ _)

/-- Rounding gives no NaN. -/
theorem normalize_ne_notANumber (mantissa exponent : Int) :
    UnpackedFloat.normalize .binary64 mantissa exponent .positive ≠ .notANumber := by
  unfold UnpackedFloat.normalize UnpackedFloat.round UnpackedFloat.roundWithAccuracy
  dsimp only
  split
  · split <;> exact nofun
  · exact nofun
  · split <;> exact nofun

/-- Where there is no difference neither float is below the other. -/
theorem not_apart_of_sub
    {a b : UnpackedFloat}
    (none : UnpackedFloat.sub .binary64 a b = .notANumber) :
    ¬ Apart a b := by
  cases a with
  | notANumber => exact nofun
  | infinity sign =>
      cases b with
      | infinity other =>
          unfold Apart
          cases sign <;> cases other
          · decide
          · cases none
          · cases none
          · decide
      | notANumber => cases sign <;> exact nofun
      | zero | finite => cases none
  | zero sign =>
      cases b with
      | notANumber => exact nofun
      | zero other => cases sign <;> cases other <;> cases none
      | infinity | finite => cases none
  | finite sign mantissa exponent pos =>
      cases b with
      | notANumber => cases sign <;> exact nofun
      | infinity | zero => cases none
      | finite => exact absurd none (normalize_ne_notANumber _ _)

/-- Finite floats of which neither is below the other are the same. -/
theorem finite_eq_of_not_apart
    {sign other : Sign}
    {mantissa otherMantissa : Nat}
    {exponent otherExponent : Int}
    {pos : 0 < mantissa}
    {otherPos : 0 < otherMantissa}
    (together : ¬ Apart (.finite sign mantissa exponent pos)
      (.finite other otherMantissa otherExponent otherPos)) :
    UnpackedFloat.finite sign mantissa exponent pos =
      .finite other otherMantissa otherExponent otherPos := by
  have parts (equal : (compare exponent otherExponent).then
      (compare mantissa otherMantissa) = .eq) (sign : Sign) :
      UnpackedFloat.finite sign mantissa exponent pos =
        .finite sign otherMantissa otherExponent otherPos := by
    obtain ⟨exponents, mantissas⟩ := Ordering.then_eq_eq.1 equal
    obtain rfl := Int.compare_eq_eq.1 exponents
    obtain rfl := Nat.compare_eq_eq.1 mantissas
    rfl
  have equal {order : Ordering} (neither : ¬ (some order = some .lt ∨ some order = some .gt)) :
      order = .eq := by
    cases order with
    | eq => rfl
    | lt => exact absurd (.inl rfl) neither
    | gt => exact absurd (.inr rfl) neither
  cases sign <;> cases other
  · exact parts (Ordering.swap_eq_eq.1 (equal together)) .negative
  · exact absurd (.inl rfl) together
  · exact absurd (.inr rfl) together
  · exact parts (equal together) .positive

/-- A finite float less itself is zero. -/
theorem sub_self_finite
    (sign : Sign)
    {mantissa : Nat}
    (exponent : Int)
    (pos : 0 < mantissa) :
    UnpackedFloat.sub .binary64 (.finite sign mantissa exponent pos)
      (.finite sign mantissa exponent pos) = .zero .positive := by
  unfold UnpackedFloat.sub
  dsimp only
  rw [Int.sub_self]
  rfl

/-- Floats of which neither is below the other have the difference NaN or zero. -/
theorem sub_of_not_apart
    {a b : UnpackedFloat}
    (together : ¬ Apart a b) :
    UnpackedFloat.sub .binary64 a b = .notANumber ∨
      ∃ sign, UnpackedFloat.sub .binary64 a b = .zero sign := by
  cases a with
  | notANumber => exact .inl rfl
  | infinity sign =>
      cases b with
      | notANumber => exact .inl rfl
      | infinity other =>
          cases sign <;> cases other
          · exact .inl rfl
          · exact absurd (.inl rfl) together
          · exact absurd (.inr rfl) together
          · exact .inl rfl
      | zero | finite =>
          cases sign
          · exact absurd (.inl rfl) together
          · exact absurd (.inr rfl) together
  | zero sign =>
      cases b with
      | notANumber => exact .inl rfl
      | zero other => cases sign <;> cases other <;> exact .inr ⟨_, rfl⟩
      | infinity other | finite other =>
          cases other
          · exact absurd (.inr rfl) together
          · exact absurd (.inl rfl) together
  | finite sign mantissa exponent pos =>
      cases b with
      | notANumber => exact .inl rfl
      | infinity other =>
          cases other
          · exact absurd (.inr rfl) together
          · exact absurd (.inl rfl) together
      | zero =>
          cases sign
          · exact absurd (.inl rfl) together
          · exact absurd (.inr rfl) together
      | finite =>
          rw [← finite_eq_of_not_apart together]
          exact .inr ⟨_, sub_self_finite sign exponent pos⟩

/-- No float is apart from itself. -/
theorem not_apart_self (a : UnpackedFloat) : ¬ Apart a a := by
  have swapped := compare_swap a a
  unfold Apart
  generalize a.compare a = order at swapped ⊢
  rcases order with _ | _ | _ | _
  · exact nofun
  · cases swapped
  · exact nofun
  · cases swapped

/-- What is not finite is not its own distance from itself. -/
theorem sub_self_eq_notANumber_iff (a : UnpackedFloat) :
    UnpackedFloat.sub .binary64 a a = .notANumber ↔ a.isFinite = false := by
  cases a with
  | notANumber => exact ⟨fun _ => rfl, fun _ => rfl⟩
  | infinity sign => cases sign <;> exact ⟨fun _ => rfl, fun _ => rfl⟩
  | zero sign => cases sign <;> exact ⟨nofun, nofun⟩
  | finite sign mantissa exponent pos =>
      exact ⟨fun none => absurd none (normalize_ne_notANumber _ _), nofun⟩

/-- No float is packed as NaN but NaN. -/
theorem isNaN_unpack_pack (a : UnpackedFloat) :
    (Float.Model.pack a).unpack.isNaN = a.isNaN := by
  cases a with
  | notANumber => rfl
  | infinity sign | zero sign => cases sign <;> rfl
  | finite sign mantissa exponent pos =>
      obtain ⟨stored, fraction, packed, beyond⟩ := exists_pack_finite exponent pos
      change (UnpackedFloat.unpack .binary64 (UnpackedFloat.pack .binary64 _)).isNaN = false
      rw [packed]
      by_cases last : stored = -1#_
      · rw [last, (beyond last).1]
        cases sign <;> rfl
      · have finite := isFinite_unpack_packComponents last sign fraction
        generalize UnpackedFloat.unpack _ _ = unpacked at finite ⊢
        cases unpacked with
        | notANumber => cases finite
        | infinity | zero | finite => rfl

end Unpacked

/-- How far two amounts are apart, either way round. -/
theorem abs_sub_comm (x y : Float) : (x - y).abs = (y - x).abs := by
  change Float.ofModel (.pack (Float.Model.pack _).unpack.abs) =
    Float.ofModel (.pack (Float.Model.pack _).unpack.abs)
  rw [Unpacked.abs_unpack_pack, Unpacked.abs_unpack_pack, Unpacked.abs_sub_comm]

/-- Whether amounts are within the tolerance of each other does not depend on their order. -/
theorem compareAmounts_eq_comm (x y : Float) :
    compareAmounts x y = .eq ↔ compareAmounts y x = .eq := by
  unfold compareAmounts
  rw [abs_sub_comm y x]
  grind

/-- The difference of two amounts is NaN exactly if that of the unpacked floats is. -/
theorem isNaN_sub_iff (x y : Float) :
    (x - y).isNaN = true ↔
      UnpackedFloat.sub .binary64 x.toModel.unpack y.toModel.unpack = .notANumber := by
  change (Float.Model.pack _).unpack.isNaN = true ↔ _
  rw [Unpacked.isNaN_unpack_pack]
  generalize UnpackedFloat.sub _ _ _ = difference
  cases difference with
  | notANumber => exact ⟨fun _ => rfl, fun _ => rfl⟩
  | infinity | zero | finite => exact ⟨nofun, nofun⟩

/-- NaN is not within the tolerance. -/
theorem not_near_of_isNaN
    {x y : Float}
    (none : UnpackedFloat.sub .binary64 x.toModel.unpack y.toModel.unpack = .notANumber) :
    ¬ (x - y).abs < amountTolerance := by
  have packed : x - y = Float.ofModel (.pack .notANumber) :=
    congrArg (fun difference => Float.ofModel (.pack difference)) none
  rw [packed]
  decide +kernel

/-- Zero is within the tolerance. -/
theorem near_of_zero
    {x y : Float}
    {sign : Sign}
    (zero : UnpackedFloat.sub .binary64 x.toModel.unpack y.toModel.unpack = .zero sign) :
    (x - y).abs < amountTolerance := by
  have packed : x - y = Float.ofModel (.pack (.zero sign)) :=
    congrArg (fun difference => Float.ofModel (.pack difference)) zero
  rw [packed]
  cases sign <;> decide +kernel

theorem lt_iff_compare (x y : Float) :
    x < y ↔ x.toModel.unpack.compare y.toModel.unpack = some .lt := by
  refine decide_eq_true_iff.trans ?_
  change x.toModel.unpack.lt y.toModel.unpack = true ↔ _
  rw [UnpackedFloat.lt, beq_iff_eq]

/-- The order of two amounts is antisymmetric exactly if they have a difference. -/
theorem compareAmounts_swap_iff (x y : Float) :
    compareAmounts y x = (compareAmounts x y).swap ↔ (x - y).isNaN = false := by
  rw [← Bool.not_eq_true, isNaN_sub_iff]
  have below := lt_iff_compare x y
  have above := lt_iff_compare y x
  rw [Unpacked.compare_swap] at above
  unfold compareAmounts
  rw [abs_sub_comm y x]
  by_cases near : (x - y).abs < amountTolerance
  · rw [if_pos near, if_pos near]
    exact ⟨fun _ none => not_near_of_isNaN none near, fun _ => rfl⟩
  · rw [if_neg near, if_neg near]
    have apart := @Unpacked.not_apart_of_sub x.toModel.unpack y.toModel.unpack
    have together (together : ¬ Unpacked.Apart x.toModel.unpack y.toModel.unpack) :
        UnpackedFloat.sub .binary64 x.toModel.unpack y.toModel.unpack = .notANumber :=
      (Unpacked.sub_of_not_apart together).resolve_right fun ⟨sign, zero⟩ =>
        near (near_of_zero zero)
    unfold Unpacked.Apart at apart together
    generalize x.toModel.unpack.compare y.toModel.unpack = order at below above apart together
    rcases order with _ | _ | _ | _
    · simp [below, above, together nofun]
    · have measured := fun none => apart none (.inl rfl)
      simpa [below, above] using measured
    · simp [below, above, together nofun]
    · have measured := fun none => apart none (.inr rfl)
      simpa [below, above] using measured

/-- The amounts that are equal to themselves are the finite ones. -/
theorem compareAmounts_self_iff (x : Float) :
    compareAmounts x x = .eq ↔ x.isFinite = true := by
  have together := Unpacked.not_apart_self x.toModel.unpack
  have finite := Unpacked.sub_self_eq_notANumber_iff x.toModel.unpack
  change _ ↔ x.toModel.unpack.isFinite = true
  unfold compareAmounts
  rcases Unpacked.sub_of_not_apart together with none | ⟨sign, zero⟩
  · rw [if_neg (not_near_of_isNaN none), finite.1 none]
    split <;> simp
  · have measured : x.toModel.unpack.isFinite = true := by
      rw [← Bool.not_eq_false, ← finite, zero]
      exact nofun
    rw [if_pos (near_of_zero zero), measured]
    simp

end CharacterSheet
