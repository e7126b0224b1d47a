import CharacterSheet.Trait.Dotline

/-!
# What a row of dots adds up to

The row of a trait shares a fixed number of places among four kinds of dots
(`DotRating.dots_capped`), and a kind falls short of its claim only where no dot of a lesser
kind is shown (`DotRating.Prioritised`). The row of a scar shows the dots that it keeps, those
that a deviation takes away and those that it adds (`Dot.scarRow_unfree`), and to free the scar
changes the last full dot alone (`Dot.freeLast_run`).

The numbers behind a row have 64 bits. `DotRating.checkedDots?` and `Dot.checkedScarRow?`
compute the same rows, but a number that leaves its range leaves no row. It never does.
-/

namespace CharacterSheet

namespace Rounding

/-- A whole number that 64 bits hold. -/
structure FitsWord (n : Int) : Prop where
  least_le : leastWord ≤ n
  le_greatest : n ≤ greatestWord

/-- The greatest count of 64 bits, `2 ^ 64 - 1`. -/
def greatestCount : Int := 18446744073709551615

/-- A whole number as a count of 64 bits, unless it is negative or too great for one. -/
def count? (n : Int) : Option Nat := if 0 ≤ n ∧ n ≤ greatestCount then some n.toNat else none

/-- What is left of a count, unless more is taken than there is. -/
def left? (count taken : Nat) : Option Nat :=
  if taken ≤ count then some (count - taken) else none

theorem left?_of_le
    {count taken : Nat}
    (enough : taken ≤ count) :
    left? count taken = some (count - taken) :=
  if_pos enough

variable {n : Int}

theorem count?_of_le
    (nonneg : 0 ≤ n)
    (le : n ≤ 9223372036854775808) :
    count? n = some n.toNat := by
  have top : n ≤ greatestCount := by
    unfold greatestCount
    omega
  exact if_pos ⟨nonneg, top⟩

theorem count?_of_nonneg
    (fits : FitsWord n)
    (nonneg : 0 ≤ n) :
    count? n = some n.toNat := by
  have top : n ≤ 9223372036854775807 := fits.le_greatest
  exact count?_of_le nonneg (by omega)

/-- What a word has above zero is a count. -/
theorem count?_max (fits : FitsWord n) : count? (max n 0) = some n.toNat := by
  have top : n ≤ 9223372036854775807 := fits.le_greatest
  have same : (max n 0).toNat = n.toNat := by omega
  rw [← same]
  exact count?_of_le (by omega) (by omega)

/-- The magnitude of a word is a count, that of the least word included. -/
theorem count?_natAbs (fits : FitsWord n) : count? n.natAbs = some n.natAbs := by
  have bottom : -9223372036854775808 ≤ n := fits.least_le
  have top : n ≤ 9223372036854775807 := fits.le_greatest
  exact count?_of_le (by omega) (by omega)

/-- What a float is rounded to is a word. -/
theorem fitsWord_toWordBy (whole : Dyadic → Int) (x : Float) : FitsWord (toWordBy whole x) := by
  unfold toWordBy
  split
  · exact ⟨leastWord_le_clampWord _, clampWord_le_greatestWord _⟩
  · split
    · exact ⟨by decide, by decide⟩
    · split
      · exact ⟨by decide, by decide⟩
      · exact ⟨by decide, by decide⟩

end Rounding

open Rounding

namespace Dot

/-- Dots of four kinds in the order of a row. -/
def ranked (full bonus broken empty : Nat) : List Dot :=
  List.replicate full .full ++ List.replicate bonus .bonus ++ List.replicate broken .broken ++
    List.replicate empty .empty

section

variable {full bonus broken empty : Nat}

@[simp] theorem length_ranked :
    (ranked full bonus broken empty).length = full + bonus + broken + empty := by
  simp [ranked, Nat.add_assoc]

@[simp] theorem count_full_ranked : (ranked full bonus broken empty).count .full = full := by
  simp [ranked, List.count_replicate]

@[simp] theorem count_bonus_ranked : (ranked full bonus broken empty).count .bonus = bonus := by
  simp [ranked, List.count_replicate]

@[simp] theorem count_broken_ranked :
    (ranked full bonus broken empty).count .broken = broken := by
  simp [ranked, List.count_replicate]

theorem mem_ranked
    {dot : Dot}
    (member : dot ∈ ranked full bonus broken empty) :
    full ≠ 0 ∧ dot = .full ∨ bonus ≠ 0 ∧ dot = .bonus ∨ broken ≠ 0 ∧ dot = .broken ∨
      empty ≠ 0 ∧ dot = .empty := by
  simpa [ranked, List.mem_replicate, or_assoc] using member

end

end Dot

namespace DotRating

variable (rating : DotRating) (limit : Nat)

/-- The places of a row within a limit go to broken dots first, then to full ones, then to
bonus ones. -/
theorem dots_capped :
    let length := (max 0 (min rating.most limit)).toNat
    let broken := min rating.broken.toNat length
    let full := min rating.base.toNat (length - broken)
    let bonus := min rating.bonus.toNat (length - broken - full)
    (rating.capped limit).dots =
      Dot.ranked full bonus broken (length - broken - full - bonus) := by
  intro length
  have same : (min rating.most limit).toNat = length := by omega
  unfold dots capped
  dsimp only
  rw [same]
  rfl

/-- A row in which a claim falls short only where nothing of a lesser claim is shown. Broken
dots come first, then full ones, then bonus ones. -/
structure Prioritised (row : List Dot) : Prop where
  broken_le : row.count .broken ≤ rating.broken.toNat
  full_le : row.count .full ≤ rating.base.toNat
  bonus_le : row.count .bonus ≤ rating.bonus.toNat
  broken_first : row.count .broken < rating.broken.toNat → ∀ dot ∈ row, dot = .broken
  full_first : row.count .full < rating.base.toNat →
    ∀ dot ∈ row, dot = .broken ∨ dot = .full
  bonus_first : row.count .bonus < rating.bonus.toNat →
    ∀ dot ∈ row, dot = .broken ∨ dot = .full ∨ dot = .bonus

theorem prioritised_dots_capped : rating.Prioritised (rating.capped limit).dots := by
  rw [dots_capped]
  constructor
  · rw [Dot.count_broken_ranked]
    exact Nat.min_le_left _ _
  · rw [Dot.count_full_ranked]
    exact Nat.min_le_left _ _
  · rw [Dot.count_bonus_ranked]
    exact Nat.min_le_left _ _
  · intro short dot member
    rw [Dot.count_broken_ranked] at short
    rcases Dot.mem_ranked member with ⟨some, -⟩ | ⟨some, -⟩ | ⟨-, same⟩ | ⟨some, -⟩
    · omega
    · omega
    · exact same
    · omega
  · intro short dot member
    rw [Dot.count_full_ranked] at short
    rcases Dot.mem_ranked member with ⟨-, same⟩ | ⟨some, -⟩ | ⟨-, same⟩ | ⟨some, -⟩
    · exact .inr same
    · omega
    · exact .inl same
    · omega
  · intro short dot member
    rw [Dot.count_bonus_ranked] at short
    rcases Dot.mem_ranked member with ⟨-, same⟩ | ⟨-, same⟩ | ⟨-, same⟩ | ⟨some, -⟩
    · exact .inr (.inl same)
    · exact .inr (.inr same)
    · exact .inl same
    · omega

/-- A rating whose numbers 64 bits hold. -/
structure FitsWords : Prop where
  base : FitsWord rating.base
  bonus : FitsWord rating.bonus
  broken : FitsWord rating.broken
  most : FitsWord rating.most

/-- The row within a limit in numbers of 64 bits. A limit beyond the greatest word is cut off
there. -/
def checkedDots? : Option (List Dot) := do
  let most := min rating.most (min (limit : Int) greatestWord)
  let length ← count? (max most 0)
  let broken := min (← count? (max rating.broken 0)) length
  let unbroken ← left? length broken
  let full := min (← count? (max rating.base 0)) unbroken
  let unfilled ← left? unbroken full
  let bonus := min (← count? (max rating.bonus 0)) unfilled
  let empty ← left? unfilled bonus
  pure (Dot.ranked full bonus broken empty)

variable {rating limit}

/-- No number on the way to a row leaves its range. -/
theorem checkedDots?_eq_some (fits : rating.FitsWords) :
    rating.checkedDots? limit = some (rating.capped limit).dots := by
  have bottom : -9223372036854775808 ≤ rating.most := fits.most.least_le
  have top : rating.most ≤ 9223372036854775807 := fits.most.le_greatest
  have most : min rating.most (min (limit : Int) greatestWord) = min rating.most limit := by
    unfold greatestWord
    omega
  have mostFits : FitsWord (min rating.most limit) := by
    constructor
    · unfold leastWord
      omega
    · unfold greatestWord
      omega
  unfold checkedDots?
  rw [most]
  simp only [count?_max mostFits, count?_max fits.broken, count?_max fits.base,
    count?_max fits.bonus, Option.bind_eq_bind, Option.bind_some,
    left?_of_le (Nat.min_le_right _ _)]
  rfl

/-- A rating that is read from a value is one of words, and so is its length if it is given. -/
theorem fitsWords_ofValue
    {trait : Value}
    {most? : Option Int}
    (fits : ∀ most ∈ most?, FitsWord most) :
    (ofValue trait most?).FitsWords := by
  have given {n? : Option Int} {missing : Int} (words : ∀ n ∈ n?, FitsWord n)
      (missingFits : FitsWord missing) : FitsWord (n?.getD missing) := by
    cases n? with
    | none => exact missingFits
    | some n => exact words n rfl
  have rounded (x? : Option Float) : ∀ n ∈ x?.map toWord, FitsWord n := by
    rintro n read
    obtain ⟨x, -, rfl⟩ := Option.map_eq_some_iff.1 read
    exact fitsWord_toWordBy _ x
  have either {first? second? : Option Int} (first : ∀ n ∈ first?, FitsWord n)
      (second : ∀ n ∈ second?, FitsWord n) : ∀ n ∈ first?.or second?, FitsWord n := by
    intro n member
    rcases Option.or_eq_some_iff.1 member with own | ⟨-, other⟩
    · exact first n own
    · exact second n other
  have zero : FitsWord 0 := ⟨by decide, by decide⟩
  constructor
  · unfold ofValue
    dsimp only
    split
    · exact fitsWord_toWordBy _ _
    · exact given (either (rounded _) (rounded _)) zero
  · exact given (rounded _) zero
  · exact given (rounded _) zero
  · exact given (either fits (rounded _)) ⟨by decide, by decide⟩

/-- A dotline always adds up. It has as many dots as the limit and the rating allow, none if
that is negative: the broken ones that fit, full ones in what these leave, bonus ones in what
both leave, and empty ones in the rest. So broken dots displace full ones and full ones bonus
ones, never the reverse: what is claimed by a lesser kind changes nothing. In numbers of 64
bits no subtraction underflows on the way, whatever the sign and the size of the rating. -/
theorem dotline_adds_up (rating : DotRating) (limit : Nat) :
    let length := (max 0 (min rating.most limit)).toNat
    let broken := min (max rating.broken 0).toNat length
    let full := min (max rating.base 0).toNat (length - broken)
    let bonus := min (max rating.bonus 0).toNat (length - broken - full)
    let row := (rating.capped limit).dots
    row.length = length ∧
      (∃ empty, full + bonus + broken + empty = length ∧
        row = List.replicate full .full ++ List.replicate bonus .bonus ++
          List.replicate broken .broken ++ List.replicate empty .empty) ∧
      rating.Prioritised row ∧
      (∀ base bonus, row.count Dot.broken =
        ({ rating with base, bonus }.capped limit).dots.count Dot.broken) ∧
      (∀ bonus, row.count Dot.full =
        ({ rating with bonus }.capped limit).dots.count Dot.full) ∧
      (rating.FitsWords → rating.checkedDots? limit = some row) := by
  intro length broken full bonus row
  have positive (n : Int) : (max n 0).toNat = n.toNat := by omega
  have whole : row = Dot.ranked full bonus broken (length - broken - full - bonus) := by
    simpa only [broken, full, bonus, positive] using dots_capped rating limit
  have sum : full + bonus + broken + (length - broken - full - bonus) = length := by omega
  refine ⟨?_, ⟨_, sum, whole⟩, prioritised_dots_capped rating limit, ?_, ?_,
    checkedDots?_eq_some⟩
  · rw [whole, Dot.length_ranked, sum]
  · intro base bonus
    simp only [row, dots_capped, Dot.count_broken_ranked]
  · intro bonus
    simp only [row, dots_capped, Dot.count_full_ranked]

/-- Three broken dots leave two places to the greatest of all ratings. -/
theorem dotline_adds_up_of_extremes :
    let rating : DotRating :=
      { base := greatestWord, bonus := leastWord, broken := 3, most := greatestWord }
    rating.FitsWords ∧
      rating.checkedDots? 5 = some [.full, .full, .broken, .broken, .broken] := by
  intro rating
  have fits : rating.FitsWords :=
    { base := ⟨by decide, by decide⟩
      bonus := ⟨by decide, by decide⟩
      broken := ⟨by decide, by decide⟩
      most := ⟨by decide, by decide⟩ }
  obtain ⟨-, -, -, -, -, checked⟩ := dotline_adds_up rating 5
  exact ⟨fits, checked fits⟩

end DotRating

namespace Dot

/-- Without a full dot nothing is freed. -/
theorem freeLast_of_not_mem
    {row : List Dot}
    (unfilled : .full ∉ row) :
    freeLast row = row := by
  fun_induction freeLast row with
  | case1 => rfl
  | case2 dot dots last =>
      simp only [Bool.and_eq_true, decide_eq_true_eq] at last
      exact absurd (last.1 ▸ List.mem_cons_self) unfilled
  | case3 dot dots _ inductionHypothesis =>
      rw [inductionHypothesis fun member => unfilled (List.mem_cons_of_mem dot member)]

/-- The last dot of a run of full ones is freed. -/
theorem freeLast_run
    {others : List Dot}
    (unfilled : .full ∉ others)
    (before : Nat) :
    freeLast (List.replicate (before + 1) .full ++ others) =
      List.replicate before .full ++ .free :: others := by
  induction before with
  | zero => simp [freeLast, unfilled]
  | succ before inductionHypothesis =>
      rw [List.replicate_succ, List.cons_append]
      unfold freeLast
      rw [if_neg (by simp), inductionHypothesis]
      rfl

/-- Freeing changes the last dot of the run of full ones, if there is one, and no other. -/
theorem freeLast_eq_set
    {others : List Dot}
    (unfilled : .full ∉ others)
    (run : Nat) :
    let row := List.replicate run .full ++ others
    freeLast row = if 0 < run then row.set (run - 1) .free else row := by
  cases run with
  | zero => exact freeLast_of_not_mem unfilled
  | succ before =>
      have lastOfRun : (List.replicate (before + 1) Dot.full ++ others).set before .free =
          List.replicate before .full ++ .free :: others := by
        rw [List.replicate_succ', List.append_assoc, List.set_append_right _ _ (by simp)]
        simp
      exact (freeLast_run unfilled before).trans lastOfRun.symm

/-- One dot is free then. -/
theorem count_free_freeLast
    {others : List Dot}
    (unfilled : .full ∉ others)
    (unfree : .free ∉ others)
    (run : Nat) :
    (freeLast (List.replicate run .full ++ others)).count .free = if 0 < run then 1 else 0 := by
  have none := List.count_eq_zero.2 unfree
  cases run with
  | zero =>
      rw [freeLast_of_not_mem (by simpa using unfilled)]
      simpa using none
  | succ before =>
      rw [freeLast_run unfilled before]
      simp [List.count_replicate, none]

/-- Exactly one dot is free if a scar is free and a full dot is left. -/
theorem count_free_eq_one_iff
    {others : List Dot}
    (unfilled : .full ∉ others)
    (unfree : .free ∉ others)
    (run : Nat)
    (free : Bool) :
    let row := List.replicate run .full ++ others
    (if free then freeLast row else row).count .free = 1 ↔ free = true ∧ 0 < run := by
  cases free with
  | false =>
      have none := List.count_eq_zero.2 unfree
      simp [List.count_replicate, none]
  | true =>
      have freed := count_free_freeLast unfilled unfree run
      by_cases some : 0 < run <;> simp [freed, some]

/-- Whether a scar is free shows in the last full dot alone, if there is one. -/
theorem freed_eq_set
    {others : List Dot}
    (unfilled : .full ∉ others)
    (run : Nat)
    (free : Bool) :
    let row := List.replicate run .full ++ others
    (if free then freeLast row else row) =
      if free = true ∧ 0 < run then row.set (run - 1) .free else row := by
  cases free with
  | false => simp
  | true => simpa using freeLast_eq_set unfilled run

theorem length_freeLast (row : List Dot) : (freeLast row).length = row.length := by
  fun_induction freeLast row with
  | case1 => rfl
  | case2 => rfl
  | case3 dot dots _ inductionHypothesis =>
      rw [List.length_cons, List.length_cons, inductionHypothesis]

variable (base deviation : Int) (free : Bool) (limit : Nat)

/-- The row of a scar that is not free. -/
theorem scarRow_unfree :
    let count := min (max base 0).toNat limit
    let ghosts := if deviation < 0 then min deviation.natAbs count else 0
    let extras := if deviation < 0 then 0 else min deviation.toNat (limit - count)
    scarRow base deviation false limit =
      List.replicate (count - ghosts) .full ++
        (List.replicate ghosts .ghost ++ List.replicate extras .extra) := by
  have positive : (max base 0).toNat = base.toNat := by omega
  rw [positive]
  unfold scarRow
  split <;> simp

/-- A scar that is free has the row of one that is not, with a dot freed. -/
theorem scarRow_eq :
    scarRow base deviation free limit =
      if free then freeLast (scarRow base deviation false limit)
      else scarRow base deviation false limit := by
  cases free <;> rfl

/-- Freeing a scar keeps the length of its row. -/
theorem length_scarRow :
    (scarRow base deviation free limit).length = (scarRow base deviation false limit).length := by
  cases free with
  | false => rfl
  | true => exact length_freeLast _

/-- The row of a scar never exceeds its limit. -/
theorem length_scarRow_le : (scarRow base deviation free limit).length ≤ limit := by
  rw [length_scarRow, scarRow_unfree]
  by_cases negative : deviation < 0
  · simp only [if_pos negative, List.length_append, List.length_replicate]
    omega
  · simp only [if_neg negative, List.length_append, List.length_replicate]
    omega

/-- The row of a scar in numbers of 64 bits. -/
def checkedScarRow? : Option (List Dot) := do
  let count := min (← count? (max base 0)) limit
  let row ←
    if deviation < 0 then do
      let ghosts := min (← count? deviation.natAbs) count
      let full ← left? count ghosts
      pure (List.replicate full .full ++ List.replicate ghosts .ghost)
    else do
      let room ← left? limit count
      let extras := min (← count? deviation) room
      pure (List.replicate count .full ++ List.replicate extras .extra)
  pure (if free then freeLast row else row)

variable {base deviation}

/-- No number on the way to the row of a scar leaves its range. -/
theorem checkedScarRow?_eq_some
    (baseFits : FitsWord base)
    (deviationFits : FitsWord deviation) :
    checkedScarRow? base deviation free limit = some (scarRow base deviation free limit) := by
  unfold checkedScarRow? scarRow
  by_cases negative : deviation < 0
  · simp only [count?_max baseFits, count?_natAbs deviationFits, if_pos negative,
      left?_of_le (Nat.min_le_right _ _), Option.bind_eq_bind, Option.bind_some,
      Option.pure_def]
  · simp only [count?_max baseFits, count?_of_nonneg deviationFits (Int.not_lt.1 negative),
      if_neg negative, left?_of_le (Nat.min_le_right _ _), Option.bind_eq_bind,
      Option.bind_some, Option.pure_def]

variable (base deviation)

/-- The row of a scar accounts for every dot. It shows the dots of its base that fit, of which a
negative deviation makes as many ghosts as it can, and a positive one adds as many dots as
there is room for. Exactly one dot is free if the scar is and a full dot is left, the last of
these, and no other dot changes. In numbers of 64 bits nothing overflows on the way, not even
for the least deviation. -/
theorem scar_row_accounts :
    let count := min (max base 0).toNat limit
    let ghosts := if deviation < 0 then min deviation.natAbs count else 0
    let extras := if deviation < 0 then 0 else min deviation.toNat (limit - count)
    let full := count - ghosts
    let row := scarRow base deviation free limit
    let unfree := scarRow base deviation false limit
    (row.length : Int) = (if deviation < 0 then (count : Int) else min limit (count + deviation)) ∧
      full + ghosts + extras = row.length ∧
      unfree = List.replicate full .full ++
        (List.replicate ghosts .ghost ++ List.replicate extras .extra) ∧
      (row.count .free = 1 ↔ free = true ∧ 0 < full) ∧
      row = (if free = true ∧ 0 < full then unfree.set (full - 1) .free else unfree) ∧
      (FitsWord base → FitsWord deviation →
        checkedScarRow? base deviation free limit = some row) := by
  intro count ghosts extras full row unfree
  have laid : unfree = List.replicate full .full ++
      (List.replicate ghosts .ghost ++ List.replicate extras .extra) :=
    scarRow_unfree base deviation limit
  have unfilled : .full ∉ List.replicate ghosts Dot.ghost ++ List.replicate extras .extra := by
    simp [List.mem_replicate]
  have costly : .free ∉ List.replicate ghosts Dot.ghost ++ List.replicate extras .extra := by
    simp [List.mem_replicate]
  have length : row.length = full + ghosts + extras := by
    have same : row.length = unfree.length := length_scarRow base deviation free limit
    rw [same, laid]
    simp [Nat.add_assoc]
  have freed : row = if free then freeLast unfree else unfree :=
    scarRow_eq base deviation free limit
  rw [laid] at freed
  refine ⟨?_, length.symm, laid, ?_, ?_, checkedScarRow?_eq_some free limit⟩
  · rw [length]
    by_cases negative : deviation < 0
    · simp only [full, ghosts, extras, if_pos negative]
      omega
    · simp only [full, ghosts, extras, if_neg negative]
      omega
  · rw [freed]
    exact count_free_eq_one_iff unfilled costly full free
  · rw [freed, laid]
    exact freed_eq_set unfilled full free

/-- The least deviation leaves ghosts alone, so no dot can be free. -/
theorem scar_row_accounts_of_least :
    FitsWord 3 ∧ FitsWord leastWord ∧
      checkedScarRow? 3 leastWord true 2 = some [.ghost, .ghost] := by
  have base : FitsWord 3 := ⟨by decide, by decide⟩
  have deviation : FitsWord leastWord := ⟨by decide, by decide⟩
  obtain ⟨-, -, -, -, -, checked⟩ := scar_row_accounts 3 leastWord true 2
  exact ⟨base, deviation, checked base deviation⟩

end Dot

end CharacterSheet
