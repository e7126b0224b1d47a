import CharacterSheet.Text.Basic

/-!
# Identifiers

Identifiers are numbers in base 36. Which numbers are drawn is up to a source of words; the words of
a source are numbered, so that a rendering depends on nothing else. As long as an identifier is
free, every source comes to one that is.
-/

namespace CharacterSheet

namespace Identifier

/-- A digit of base 36. -/
def digit (n : Nat) : Char :=
  if n < 10 then Char.ofNat ('0'.toNat + n) else Char.ofNat ('a'.toNat + (n - 10))

/-- The digits of a number, put in front of those that follow. -/
def digitsBefore (after : Text) : (fuel : Nat) → Nat → Text
  | 0, _ => after
  | fuel + 1, n =>
    if n < 36 then digit n :: after
    else digitsBefore (digit (n % 36) :: after) fuel (n / 36)

/-- The text of a number in base 36. -/
def ofNat (n : Nat) : Text := digitsBefore [] (n + 1) n

/-- The value of a digit of base 36. -/
def digitValue (c : Char) : Nat :=
  if c.isDigit then c.toNat - '0'.toNat else c.toNat - 'a'.toNat + 10

/-- The number that a text of base 36 stands for. -/
def toNat (text : Text) : Nat := text.foldl (fun n c => 36 * n + digitValue c) 0

/-- The identifier of a drawn word. -/
def ofWord (word : UInt64) : String := String.ofList (ofNat word.toNat)

/-- Not every identifier is in use. -/
def Free (used : List String) : Prop := ∃ word, ofWord word ∉ used

end Identifier

/-- An endless source of words. -/
structure WordSource where
  /-- The word of each draw. -/
  word : Nat → UInt64
  /-- How many more draws to wait at most for the word of a free identifier. -/
  wait : (used : List String) → (drawn : Nat) → Nat
  /-- A free identifier comes, if there is one. -/
  comes : ∀ used drawn, Identifier.Free used →
    ∃ n ≤ wait used drawn, Identifier.ofWord (word (drawn + n)) ∉ used

namespace WordSource

/-- A source where every word comes again within as many draws as there are words. -/
def ofRecurring (word : Nat → UInt64)
    (recurs : ∀ target drawn, ∃ n ≤ UInt64.size, word (drawn + n) = target) : WordSource where
  word
  wait _ _ := UInt64.size
  comes used drawn := by
    rintro ⟨free, isFree⟩
    obtain ⟨n, within, comes⟩ := recurs free drawn
    exact ⟨n, within, comes.symm ▸ isFree⟩

/-- Counting comes to every word within as many steps as there are words. -/
theorem exists_add_eq (first target : UInt64) (drawn : Nat) :
    ∃ n ≤ UInt64.size, first + (drawn + n).toUInt64 = target := by
  refine ⟨(target - (first + drawn.toUInt64)).toNat, Nat.le_of_lt (UInt64.toNat_lt_size _), ?_⟩
  rw [Nat.toUInt64, UInt64.ofNat_add, UInt64.ofNat_toNat]
  change first + (drawn.toUInt64 + (target - (first + drawn.toUInt64))) = target
  grind

/-- All words in order, from the given one on. -/
def counting (first : UInt64) : WordSource :=
  ofRecurring (fun n => first + n.toUInt64) (exists_add_eq first)

/-- The words of a seed: all words in order, spread by an odd factor. -/
def ofSeed (seed : UInt64) : WordSource :=
  ofRecurring (fun n => (seed + n.toUInt64) * 0x9E3779B97F4A7C15) fun target drawn => by
    have inverse : (0xF1DE83E19937733D : UInt64) * 0x9E3779B97F4A7C15 = 1 := by decide
    obtain ⟨n, within, comes⟩ := exists_add_eq seed (target * 0xF1DE83E19937733D) drawn
    exact ⟨n, within, by rw [comes, UInt64.mul_assoc, inverse, UInt64.mul_one]⟩

end WordSource

end CharacterSheet
