import CharacterSheet.Value.Basic

/-!
# The sign of zero

A zero keeps a sign that no amount shows. Two floats are the same amount if they are equal or
both zero (`SameAmount`). Arithmetic keeps amounts the same, except that a quotient shows the
sign of a zero that it is divided by, and what is stored or written of an amount is the same for
the same amount.
-/

namespace CharacterSheet

open Float.Model

/-- Zero, with either sign. -/
def IsZero (x : Float) : Prop := x = 0.0 ∨ x = -0.0

/-- Floats that differ at most in the sign of a zero. -/
def SameAmount (x y : Float) : Prop := x = y ∨ IsZero x ∧ IsZero y

/-- Unpacked floats that differ at most in the sign of a zero. -/
def SameUnpacked (a b : UnpackedFloat) : Prop :=
  a = b ∨ (∃ sign, a = .zero sign) ∧ ∃ sign, b = .zero sign

namespace IsZero

theorem exists_unpack
    {x : Float}
    (isZero : IsZero x) :
    ∃ sign, x.toModel.unpack = .zero sign := by
  rcases isZero with rfl | rfl
  · exact ⟨.positive, rfl⟩
  · exact ⟨.negative, rfl⟩

theorem pack (sign : UnpackedFloat.Sign) : IsZero (.ofModel (.pack (.zero sign))) := by
  cases sign with
  | positive => exact .inl rfl
  | negative => exact .inr rfl

end IsZero

namespace SameUnpacked

variable {a b c d : UnpackedFloat}

/-- Packed again, they are the same amount. -/
theorem pack (same : SameUnpacked a b) : SameAmount (.ofModel (.pack a)) (.ofModel (.pack b)) := by
  rcases same with rfl | ⟨⟨sign, rfl⟩, other, rfl⟩
  · exact .inl rfl
  · exact .inr ⟨.pack sign, .pack other⟩

theorem trans
    (first : SameUnpacked a b)
    (second : SameUnpacked b c) :
    SameUnpacked a c := by
  rcases first with rfl | ⟨isZero, isZeroToo⟩
  · exact second
  · rcases second with rfl | ⟨-, otherZero⟩
    · exact .inr ⟨isZero, isZeroToo⟩
    · exact .inr ⟨isZero, otherZero⟩

theorem zeros (sign other : UnpackedFloat.Sign) : SameUnpacked (.zero sign) (.zero other) :=
  .inr ⟨⟨sign, rfl⟩, other, rfl⟩

theorem neg (same : SameUnpacked a b) : SameUnpacked a.neg b.neg := by
  rcases same with rfl | ⟨⟨sign, rfl⟩, other, rfl⟩
  · exact .inl rfl
  · exact zeros _ _

end SameUnpacked

/-- An operation whose result does not depend on the sign of a zero, but for that of a zero. -/
structure KeepsZero (op : UnpackedFloat → UnpackedFloat → UnpackedFloat) : Prop where
  left (sign other : UnpackedFloat.Sign) (a : UnpackedFloat) :
    SameUnpacked (op (.zero sign) a) (op (.zero other) a)
  right (a : UnpackedFloat) (sign other : UnpackedFloat.Sign) :
    SameUnpacked (op a (.zero sign)) (op a (.zero other))

namespace KeepsZero

theorem same
    {op : UnpackedFloat → UnpackedFloat → UnpackedFloat}
    (keeps : KeepsZero op)
    {a b c d : UnpackedFloat}
    (first : SameUnpacked a b)
    (second : SameUnpacked c d) :
    SameUnpacked (op a c) (op b d) := by
  have left : SameUnpacked (op a c) (op b c) := by
    rcases first with rfl | ⟨⟨sign, rfl⟩, other, rfl⟩
    · exact .inl rfl
    · exact keeps.left sign other c
  have right : SameUnpacked (op b c) (op b d) := by
    rcases second with rfl | ⟨⟨sign, rfl⟩, other, rfl⟩
    · exact .inl rfl
    · exact keeps.right b sign other
  exact left.trans right

theorem add (spec : Format) : KeepsZero (UnpackedFloat.add spec) where
  left sign other a := by
    cases a with
    | zero third => cases sign <;> cases other <;> cases third <;> exact .zeros _ _
    | notANumber | infinity | finite => exact .inl rfl
  right a sign other := by
    cases a with
    | zero third => cases sign <;> cases other <;> cases third <;> exact .zeros _ _
    | notANumber | infinity | finite => exact .inl rfl

theorem sub (spec : Format) : KeepsZero (UnpackedFloat.sub spec) where
  left sign other a := by
    cases a with
    | zero third => cases sign <;> cases other <;> cases third <;> exact .zeros _ _
    | notANumber | infinity | finite => exact .inl rfl
  right a sign other := by
    cases a with
    | zero third => cases sign <;> cases other <;> cases third <;> exact .zeros _ _
    | notANumber | infinity | finite => exact .inl rfl

theorem mul (spec : Format) : KeepsZero (UnpackedFloat.mul spec) where
  left sign other a := by
    cases a with
    | zero | finite => exact .zeros _ _
    | notANumber | infinity => exact .inl rfl
  right a sign other := by
    cases a with
    | zero | finite => exact .zeros _ _
    | notANumber | infinity => exact .inl rfl

end KeepsZero

/-- A quotient does not show the sign of a zero above the line. -/
theorem SameUnpacked.div
    (spec : Format)
    {a b : UnpackedFloat}
    (same : SameUnpacked a b)
    (c : UnpackedFloat) :
    SameUnpacked (.div spec a c) (.div spec b c) := by
  rcases same with rfl | ⟨⟨sign, rfl⟩, other, rfl⟩
  · exact .inl rfl
  · cases c with
    | infinity | finite => exact zeros _ _
    | notANumber | zero => exact .inl rfl

namespace SameAmount

variable {x y z w : Float}

theorem unpack (same : SameAmount x y) : SameUnpacked x.toModel.unpack y.toModel.unpack := by
  rcases same with rfl | ⟨isZero, otherZero⟩
  · exact .inl rfl
  · exact .inr ⟨isZero.exists_unpack, otherZero.exists_unpack⟩

theorem neg (same : SameAmount x y) : SameAmount (-x) (-y) := same.unpack.neg.pack

theorem add (first : SameAmount x y) (second : SameAmount z w) : SameAmount (x + z) (y + w) :=
  ((KeepsZero.add _).same first.unpack second.unpack).pack

theorem sub (first : SameAmount x y) (second : SameAmount z w) : SameAmount (x - z) (y - w) :=
  ((KeepsZero.sub _).same first.unpack second.unpack).pack

theorem mul (first : SameAmount x y) (second : SameAmount z w) : SameAmount (x * z) (y * w) :=
  ((KeepsZero.mul _).same first.unpack second.unpack).pack

theorem div (same : SameAmount x y) (z : Float) : SameAmount (x / z) (y / z) :=
  (same.unpack.div _ _).pack

/-- What does not tell the two zeros apart gives the same for the same amount. -/
theorem congr
    {α : Type}
    {f : Float → α}
    (zeros : f 0.0 = f (-0.0))
    (same : SameAmount x y) :
    f x = f y := by
  rcases same with rfl | ⟨rfl | rfl, rfl | rfl⟩
  · rfl
  · rfl
  · exact zeros
  · exact zeros.symm
  · rfl

/-- The two zeros are rounded and written alike, and both are stored as a whole zero. -/
theorem zeros_alike :
    Rounding.up 0.0 = Rounding.up (-0.0) ∧
      Rounding.down 0.0 = Rounding.down (-0.0) ∧
      Amount.signedText 0.0 = Amount.signedText (-0.0) ∧
      (Amount.isPlainWhole 0.0 = true ∧ Rounding.toWord 0.0 = 0) ∧
      Amount.isPlainWhole (-0.0) = true ∧ Rounding.toWord (-0.0) = 0 := by
  decide +kernel

theorem up (same : SameAmount x y) : SameAmount (Rounding.up x) (Rounding.up y) :=
  .inl (same.congr zeros_alike.1)

theorem down (same : SameAmount x y) : SameAmount (Rounding.down x) (Rounding.down y) :=
  .inl (same.congr zeros_alike.2.1)

/-- The sign of a zero is not stored. -/
theorem ofAmount (same : SameAmount x y) : Value.ofAmount x = Value.ofAmount y := by
  have stored (zero : Float)
      (whole : Amount.isPlainWhole zero = true ∧ Rounding.toWord zero = 0) :
      Value.ofAmount zero = .number (Number.ofWord 0) := by
    rw [Value.ofAmount, if_pos whole.1, whole.2]
  obtain ⟨-, -, -, zero, negative⟩ := zeros_alike
  refine same.congr ?_
  rw [stored 0.0 zero, stored (-0.0) negative]

/-- The sign of a zero is not written. -/
theorem signedText (same : SameAmount x y) : Amount.signedText x = Amount.signedText y :=
  same.congr zeros_alike.2.2.1

end SameAmount

end CharacterSheet
