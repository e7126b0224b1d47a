import CharacterSheet.Text.Basic

/-!
# Decimal digits

Whole numbers as decimal digits, and digits read back.
-/

namespace CharacterSheet

namespace Digits

/-- The decimal digits of a whole number, most significant first. -/
def ofNat (n : Nat) : Text := Nat.toDigits 10 n

theorem isDigit_of_mem_ofNat {n : Nat} {c : Char} (member : c ∈ ofNat n) : c.isDigit = true :=
  Nat.isDigit_of_mem_toDigits (by decide) (by decide) member

/-- A whole number with a minus sign when it is below zero. -/
def ofInt (n : Int) : Text := if n < 0 then '-' :: ofNat n.natAbs else ofNat n.natAbs

/-- The value of a decimal digit. -/
def value (c : Char) : Nat := c.toNat - '0'.toNat

/-- The number that a row of digits stands for. -/
def toNat (digits : Text) : Nat := digits.foldl (fun n c => 10 * n + value c) 0

/-- Digits at the start of a text, and the rest. -/
def spanStart (text : Text) : Text × Text := text.span Char.isDigit

/-- An index: digits with an optional plus sign, within 64 bits. -/
def index? (text : Text) : Option Nat :=
  let digits := match text with
    | '+' :: rest => rest
    | _ => text
  if digits.isEmpty || !digits.all Char.isDigit then none
  else
    let n := toNat digits
    if n < Nat.pow 2 64 then some n else none

end Digits

end CharacterSheet
