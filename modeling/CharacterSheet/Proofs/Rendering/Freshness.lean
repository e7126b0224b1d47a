import Mathlib.Data.List.Nodup
import Mathlib.Data.List.Perm.Subperm
import CharacterSheet.Rendering.Placeholders

/-!
# Fresh identifiers

An identifier is read back to its word, so different words have different identifiers. With fewer
entries than words one is free, and then a source comes to a free one: what is drawn is the
identifier of no entry (`Placeholders.draw_notMem_used`), and registering markup keeps all markup
that was registered before.
-/

namespace CharacterSheet

namespace Identifier

/-- Digits are read behind the number that they are put behind. -/
theorem toNat_digitsBefore
    (after : Text)
    {fuel n : Nat}
    (enough : n < fuel) :
    toNat (digitsBefore after fuel n) =
      after.foldl (fun n c => 36 * n + digitValue c) n := by
  have value : ∀ n < 36, digitValue (digit n) = n := by decide
  unfold toNat
  induction fuel generalizing after n with
  | zero => exact absurd enough (Nat.not_lt_zero n)
  | succ fuel inductionHypothesis =>
      unfold digitsBefore
      split
      · next small =>
          rw [List.foldl_cons, value n small, Nat.mul_zero, Nat.zero_add]
      · next large =>
          rw [inductionHypothesis _ (by omega), List.foldl_cons,
            value _ (Nat.mod_lt n (by decide)), Nat.div_add_mod]

/-- Reading a number in base 36 gives the number. -/
theorem toNat_ofNat (n : Nat) : toNat (ofNat n) = n :=
  toNat_digitsBefore [] (Nat.lt_succ_self n)

/-- Different words have different identifiers. -/
theorem ofWord_injective : Function.Injective ofWord := by
  intro one other same
  have texts : ofNat one.toNat = ofNat other.toNat := String.ofList_injective same
  apply UInt64.toNat_inj.1
  rw [← toNat_ofNat one.toNat, texts, toNat_ofNat]

/-- Not all identifiers are in use if there are fewer than words. -/
theorem free_of_length_lt
    {used : List String}
    (few : used.length < UInt64.size) :
    Free used := by
  by_contra none
  have taken (word : UInt64) : ofWord word ∈ used := by
    by_contra isFree
    exact none ⟨word, isFree⟩
  let all : List String := (List.range UInt64.size).map fun n => ofWord (.ofNat n)
  have distinct : all.Nodup := by
    refine List.Nodup.map_on (fun n small m otherSmall same => ?_) List.nodup_range
    have words := congrArg UInt64.toNat (ofWord_injective same)
    rwa [UInt64.toNat_ofNat_of_lt' (List.mem_range.1 small),
      UInt64.toNat_ofNat_of_lt' (List.mem_range.1 otherSmall)] at words
  have contained : all ⊆ used := by
    intro id mem
    obtain ⟨n, -, rfl⟩ := List.mem_map.1 mem
    exact taken _
  have least := (List.subperm_of_subset distinct contained).length_le
  rw [List.length_map, List.length_range] at least
  exact Nat.not_le_of_lt few least

end Identifier

namespace Placeholders

variable {words : WordSource} {used : List String} {placeholders : Placeholders}

/-- If the word of a free identifier comes soon enough, the identifier that is drawn is free. -/
theorem drawFresh_notMem
    {drawn more : Nat}
    (comes : ∃ n ≤ more, Identifier.ofWord (words.word (drawn + n)) ∉ used) :
    (drawFresh words used drawn more).1 ∉ used := by
  induction more generalizing drawn with
  | zero =>
      obtain ⟨n, within, isFree⟩ := comes
      obtain rfl := Nat.le_zero.1 within
      exact isFree
  | succ more inductionHypothesis =>
      unfold drawFresh
      dsimp only
      split
      · next inUse =>
          refine inductionHypothesis ?_
          obtain ⟨n, within, isFree⟩ := comes
          cases n with
          | zero => exact absurd (List.contains_iff_mem.1 inUse) isFree
          | succ n => exact ⟨n, Nat.le_of_succ_le_succ within, by rwa [Nat.succ_add_eq_add_succ]⟩
      · next fresh => simpa using fresh

/-- What is drawn is the identifier of no entry. -/
theorem draw_notMem_used
    (words : WordSource)
    (few : placeholders.entries.length < UInt64.size) :
    (placeholders.draw words).1 ∉ placeholders.used := by
  have free : Identifier.Free placeholders.used :=
    Identifier.free_of_length_lt (by rwa [Placeholders.used, List.length_map])
  exact drawFresh_notMem (words.comes _ _ free)

/-- Markup is registered under a fresh identifier, and what was registered before stays. -/
theorem exists_fresh_of_register
    (words : WordSource)
    (few : placeholders.entries.length < UInt64.size)
    (html : Text) :
    ∃ id ∉ placeholders.used,
      (placeholders.register words html).1 = TokenPart.tokenText id ∧
      (placeholders.register words html).2.entries = (id, html) :: placeholders.entries := by
  have fresh := draw_notMem_used words few
  refine ⟨_, fresh, rfl, congrArg (_ :: ·) (List.filter_eq_self.2 fun entry mem => ?_)⟩
  have apart : entry.1 ≠ (placeholders.draw words).1 := fun same =>
    fresh (same ▸ List.mem_map_of_mem mem)
  exact decide_eq_true apart

end Placeholders
end CharacterSheet
