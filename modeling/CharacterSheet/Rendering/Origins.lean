import CharacterSheet.Text.Basic

/-!
# Origins

While a template is expanded, its text moves. The origins tell for a byte offset in the moved text
where in the template it comes from: text behind the last replacement has only been shifted, and
text that a replacement produced comes from the start of the span it replaced.
-/

namespace CharacterSheet

/-- How offsets in partly expanded text relate to offsets in the template. -/
structure Origins where
  /-- How much longer the text has become, for offsets from the frontier on. -/
  shift : Int := 0
  /-- Where the rightmost replacement ends. -/
  frontier : Nat := 0
  /-- Where in the template the text before the frontier comes from. -/
  anchor : Nat := 0
  deriving DecidableEq, Repr

namespace Origins

/-- The offset in the template that an offset in the text comes from. -/
def source (origins : Origins) (offset : Nat) : Nat :=
  if origins.frontier ≤ offset then (offset - origins.shift).toNat else origins.anchor

/-- The origins after the text from `start` to `stop` was replaced by `size` bytes. -/
def replaced (origins : Origins) (start stop size : Nat) : Origins :=
  let change : Int := size - (stop - start : Nat)
  { shift := origins.shift + change
    frontier := max (origins.frontier + change).toNat (start + size)
    anchor := if origins.frontier ≤ start then origins.source start else origins.anchor }

/-- How many lines of the template precede an offset. -/
def linesBefore (template : Text) (offset : Nat) : Nat :=
  ((Text.takeBytes? offset template).map fun text => text.count '\n').getD 0

end Origins

end CharacterSheet
