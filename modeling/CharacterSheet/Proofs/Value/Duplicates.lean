import Mathlib.Data.List.Basic
import CharacterSheet.Value.Layer

/-!
# Lists without duplicates

Elements with a key text are duplicates when their keys are the same, and elements
without one when their compact texts are. No key is mistaken for a text
(`Value.identity_eq_iff`), so a list loses exactly the elements that are duplicates of
an earlier one (`Value.unique_eq_firsts`). What is left loses nothing more, also when
it is joined to the list once again.
-/

namespace CharacterSheet

namespace Number

/-- Whether a character may be part of the text of a number. -/
def IsTextChar (c : Char) : Prop := c.isDigit = true ∨ c ∈ "-+.e".toList

theorem isTextChar_ofNat (n : Nat) : ∀ c ∈ Digits.ofNat n, IsTextChar c :=
  fun _ member => .inl (Digits.isDigit_of_mem_ofNat member)

theorem isTextChar_zeros (count : Nat) : ∀ c ∈ List.replicate count '0', IsTextChar c := by
  intro c member
  rw [List.eq_of_mem_replicate member]
  exact .inl rfl

theorem isTextChar_positional
    {digits : Text}
    (areDigits : ∀ c ∈ digits, IsTextChar c)
    (point : Int) :
    ∀ c ∈ positional digits point, IsTextChar c := by
  have zeros := isTextChar_zeros
  unfold positional
  dsimp only
  split
  · simp only [List.forall_mem_append, List.forall_mem_cons]
    exact ⟨⟨areDigits, zeros _⟩, .inr (by decide), .inl rfl, by simp⟩
  · split
    · simp only [List.forall_mem_append, List.forall_mem_cons]
      refine ⟨⟨fun c member => areDigits c (List.mem_of_mem_take member), .inr (by decide),
        by simp⟩, fun c member => areDigits c (List.mem_of_mem_drop member)⟩
    · simp only [List.forall_mem_append, List.forall_mem_cons]
      exact ⟨⟨⟨.inl rfl, .inr (by decide), by simp⟩, zeros _⟩, areDigits⟩

theorem isTextChar_scientific
    {digits : Text}
    (areDigits : ∀ c ∈ digits, IsTextChar c)
    (point : Int) :
    ∀ c ∈ scientific digits point, IsTextChar c := by
  have sign : IsTextChar (if point - 1 < 0 then '-' else '+') := by
    split <;> exact .inr (by decide)
  have places : ∀ c ∈ (if digits.length ≤ 1 then [] else '.' :: digits.drop 1),
      IsTextChar c := by
    split
    · simp
    · simp only [List.forall_mem_cons]
      exact ⟨.inr (by decide), fun c member => areDigits c (List.mem_of_mem_drop member)⟩
  unfold scientific
  simp only [List.forall_mem_append, List.forall_mem_cons]
  exact ⟨⟨⟨fun c member => areDigits c (List.mem_of_mem_take member), places⟩,
    .inr (by decide), sign, by simp⟩, isTextChar_ofNat _⟩

theorem isTextChar_magnitudeText (d : Dyadic) : ∀ c ∈ magnitudeText d, IsTextChar c := by
  have areDigits := isTextChar_ofNat (Shortest.digits d).digits
  unfold magnitudeText
  dsimp only
  split
  · simp only [List.forall_mem_cons]
    exact ⟨.inl rfl, .inr (by decide), .inl rfl, by simp⟩
  · split
    · exact isTextChar_positional areDigits _
    · exact isTextChar_scientific areDigits _

/-- The text of a number is made of digits, signs, points and exponents. -/
theorem isTextChar_text (n : Number) : ∀ c ∈ n.text, IsTextChar c := by
  have minus : IsTextChar '-' := .inr (by decide)
  cases n with
  | integer n =>
      unfold text Digits.ofInt
      dsimp only
      split
      · simp only [List.forall_mem_cons]
        exact ⟨minus, isTextChar_ofNat _⟩
      · exact isTextChar_ofNat _
  | real x =>
      unfold text
      dsimp only
      split
      · next d _ =>
          refine List.forall_mem_append.2 ⟨?_, isTextChar_magnitudeText d⟩
          split
          · simpa using minus
          · simp
      · simp

end Number

namespace Value

/-- No compact text starts as an identity by key does. -/
theorem written_ne_cons (value : Value) (rest : Text) : value.written ≠ 'k' :: rest := by
  intro same
  cases value with
  | number n =>
      have member : 'k' ∈ n.text := by
        rw [written] at same
        rw [same]
        exact List.mem_cons_self
      rcases n.isTextChar_text 'k' member with digit | mark
      · exact absurd digit (by decide)
      · exact absurd mark (by decide)
  | boolean b => cases b <;> cases same
  | null | string | array | object => cases same

/-- The key of a record, if it is a text. -/
def keyText? (value : Value) : Option String := (value.field? "key").bind string?

theorem identity_of_key
    {value : Value}
    {key : String}
    (isKey : value.keyText? = some key) :
    value.identity = "key:" ++ key := by
  obtain ⟨field, found, isText⟩ := Option.bind_eq_some_iff.1 isKey
  cases field with
  | string s =>
      cases isText
      rw [identity, found]
      rfl
  | _ => cases isText

theorem identity_of_no_key
    {value : Value}
    (noKey : value.keyText? = none) :
    value.identity = value.compact := by
  unfold identity
  split
  · next found =>
      rw [keyText?, found] at noKey
      cases noKey
  · rfl

theorem key_ne_compact (key : String) (value : Value) : "key:" ++ key ≠ value.compact := by
  intro same
  have texts : value.written = "key:".toList ++ key.toList := by
    rw [← String.toList_append, same, compact, String.toList_ofList]
  exact written_ne_cons value _ texts

/-- Whether two elements of a list are duplicates, so that only the first one is kept: both
have the same key text, or none has a key text and both have the same compact text. -/
def Duplicate (first second : Value) : Prop :=
  match first.keyText?, second.keyText? with
  | some key, some other => key = other
  | none, none => first.compact = second.compact
  | _, _ => False

/-- Elements are duplicates exactly when they are identified alike. -/
theorem identity_eq_iff
    {first second : Value} :
    first.identity = second.identity ↔ Duplicate first second := by
  unfold Duplicate
  cases firstKey : first.keyText? with
  | none =>
      rw [identity_of_no_key firstKey]
      cases secondKey : second.keyText? with
      | none => rw [identity_of_no_key secondKey]
      | some key =>
          rw [identity_of_key secondKey]
          exact iff_of_false (key_ne_compact key first).symm id
  | some key =>
      rw [identity_of_key firstKey]
      cases secondKey : second.keyText? with
      | none =>
          rw [identity_of_no_key secondKey]
          exact iff_of_false (key_ne_compact key second) id
      | some other =>
          rw [identity_of_key secondKey]
          exact String.append_right_inj _

instance : DecidableRel Duplicate := fun _ _ => decidable_of_iff _ identity_eq_iff

theorem Duplicate.refl (value : Value) : Duplicate value value := identity_eq_iff.1 rfl

theorem Duplicate.symm
    {first second : Value}
    (duplicate : Duplicate first second) :
    Duplicate second first :=
  identity_eq_iff.1 (identity_eq_iff.2 duplicate).symm

theorem Duplicate.trans
    {first second third : Value}
    (earlier : Duplicate first second)
    (later : Duplicate second third) :
    Duplicate first third :=
  identity_eq_iff.1 ((identity_eq_iff.2 earlier).trans (identity_eq_iff.2 later))

/-- Beyond the seen identities, a list keeps what it keeps beyond none but has not been
seen. -/
theorem uniqueBeyond_eq_filter (seen : List String) (items : List Value) :
    uniqueBeyond seen items = (unique items).filter fun item => item.identity ∉ seen := by
  induction items generalizing seen with
  | nil => rfl
  | cons item items inductionHypothesis =>
      have alone : unique (item :: items) =
          item :: (unique items).filter fun other => other.identity ∉ [item.identity] := by
        rw [← inductionHypothesis]
        rfl
      rw [alone, uniqueBeyond]
      split
      · next isSeen =>
          have isSeen : item.identity ∈ seen := List.contains_iff_mem.1 isSeen
          rw [List.filter_cons_of_neg (by simpa using isSeen), List.filter_filter,
            inductionHypothesis]
          refine List.filter_congr fun other _ => ?_
          have apart : other.identity ∉ seen → other.identity ≠ item.identity :=
            fun unseen same => unseen (same ▸ isSeen)
          simpa using apart
      · next notSeen =>
          have notSeen : item.identity ∉ seen := fun isSeen =>
            notSeen (List.contains_iff_mem.2 isSeen)
          rw [List.filter_cons_of_pos (by simpa using notSeen), List.filter_filter,
            inductionHypothesis]
          refine congrArg _ (List.filter_congr fun other _ => ?_)
          simp [Bool.and_comm]

/-- The first element is kept, and of what the others keep, that which is no duplicate of
it. -/
theorem unique_cons (item : Value) (items : List Value) :
    unique (item :: items) = item :: (unique items).filter fun other => ¬ Duplicate item other := by
  have kept : unique (item :: items) = item :: uniqueBeyond [item.identity] items := rfl
  rw [kept, uniqueBeyond_eq_filter]
  refine congrArg _ (List.filter_congr fun other _ => ?_)
  simp [← identity_eq_iff, eq_comm]

theorem unique_subset (items : List Value) : unique items ⊆ items := by
  induction items with
  | nil => exact List.Subset.refl _
  | cons item items inductionHypothesis =>
      rw [unique_cons]
      exact List.cons_subset_cons item
        (List.Subset.trans (List.filter_sublist.subset) inductionHypothesis)

/-- No two of the elements that are kept are duplicates. -/
theorem pairwise_unique (items : List Value) :
    (unique items).Pairwise fun first second => ¬ Duplicate first second := by
  induction items with
  | nil => exact List.Pairwise.nil
  | cons item items inductionHypothesis =>
      rw [unique_cons]
      refine List.pairwise_cons.2 ⟨fun other mem => ?_, inductionHypothesis.filter _⟩
      simpa using (List.mem_filter.1 mem).2

/-- A list without duplicates keeps all of its elements. -/
theorem unique_of_pairwise
    {items : List Value}
    (apart : items.Pairwise fun first second => ¬ Duplicate first second) :
    unique items = items := by
  induction items with
  | nil => rfl
  | cons item items inductionHypothesis =>
      obtain ⟨first, rest⟩ := List.pairwise_cons.1 apart
      rw [unique_cons, inductionHypothesis rest,
        List.filter_eq_self.2 fun other mem => by simpa using first other mem]

/-- Of every element that is left out, a duplicate is kept. -/
theorem exists_mem_unique
    {items : List Value}
    {item : Value}
    (mem : item ∈ items) :
    ∃ kept ∈ unique items, Duplicate kept item := by
  induction items with
  | nil => cases mem
  | cons first items inductionHypothesis =>
      rw [unique_cons]
      by_cases same : Duplicate first item
      · exact ⟨first, List.mem_cons_self, same⟩
      · have later : item ∈ items := by
          rcases List.mem_cons.1 mem with rfl | later
          · exact absurd (Duplicate.refl item) same
          · exact later
        obtain ⟨kept, isKept, duplicate⟩ := inductionHypothesis later
        have apart : ¬ Duplicate first kept := fun other => same (other.trans duplicate)
        have remains : kept ∈ (unique items).filter fun other => ¬ Duplicate first other :=
          List.mem_filter.2 ⟨isKept, decide_eq_true apart⟩
        exact ⟨kept, List.mem_cons_of_mem first remains, duplicate⟩

theorem unique_unique (items : List Value) : unique (unique items) = unique items :=
  unique_of_pairwise (pairwise_unique items)

/-- Of two lists in a row, the second keeps what it keeps alone and is no duplicate of
anything in the first. -/
theorem unique_append (first second : List Value) :
    unique (first ++ second) =
      unique first ++ (unique second).filter fun item =>
        ∀ earlier ∈ first, ¬ Duplicate earlier item := by
  induction first with
  | nil => simp [unique, uniqueBeyond]
  | cons item first inductionHypothesis =>
      rw [List.cons_append, unique_cons, unique_cons, inductionHypothesis, List.filter_append,
        List.filter_filter, List.cons_append]
      refine congrArg (fun rest => item :: (_ ++ rest)) (List.filter_congr fun other _ => ?_)
      simp

/-- Joining a list to what it was joined to before adds nothing. -/
theorem concatUnique_concatUnique (first second : List Value) :
    concatUnique first (concatUnique first second) = concatUnique first second := by
  let news (item : Value) : Bool := ∀ earlier ∈ first, ¬ Duplicate earlier item
  have own : (unique first).filter news = [] := by
    refine List.filter_eq_nil_iff.2 fun item mem isNew => ?_
    exact of_decide_eq_true isNew item (unique_subset first mem) (.refl item)
  calc concatUnique first (concatUnique first second)
      _ = unique first ++ (unique (unique (first ++ second))).filter news :=
        unique_append first (unique (first ++ second))
      _ = unique first ++ (unique first ++ (unique second).filter news).filter news := by
        rw [unique_unique, unique_append]
      _ = unique first ++ (unique second).filter news := by
        rw [List.filter_append, own, List.nil_append, List.filter_filter]
        simp only [Bool.and_self]
      _ = concatUnique first second := (unique_append first second).symm

/-- The elements of a list that are no duplicates of an earlier one, in their order. -/
def firsts (items : List Value) : List Value :=
  ((List.finRange items.length).filter fun i => ∀ j < i, ¬ Duplicate items[j] items[i]).map
    fun i => items[i]

theorem firsts_cons (item : Value) (items : List Value) :
    firsts (item :: items) = item :: (firsts items).filter fun other => ¬ Duplicate item other := by
  have later (i : Fin items.length) :
      (∀ j < i.succ, ¬ Duplicate (item :: items)[j] (item :: items)[i.succ]) ↔
        ¬ Duplicate item items[i] ∧ ∀ j < i, ¬ Duplicate items[j] items[i] := by
    rw [Fin.forall_fin_succ]
    simp [Fin.succ_lt_succ_iff]
  have indices : List.finRange (item :: items).length =
      0 :: (List.finRange items.length).map Fin.succ :=
    List.finRange_succ
  unfold firsts
  rw [indices, List.filter_cons_of_pos (by simp), List.map_cons, List.filter_map, List.map_map,
    List.filter_map, List.filter_filter]
  refine congrArg (fun rest => item :: List.map _ rest) (List.filter_congr fun i _ => ?_)
  rw [Function.comp_apply, Function.comp_apply, ← Bool.decide_and]
  exact decide_eq_decide.2 (later i)

/-- A list loses exactly the elements that are duplicates of an earlier one. -/
theorem unique_eq_firsts (items : List Value) : unique items = firsts items := by
  induction items with
  | nil => rfl
  | cons item items inductionHypothesis =>
      rw [unique_cons, firsts_cons, inductionHypothesis]

/-- Removing duplicates loses and repeats nothing: it keeps exactly the elements that are no
duplicates of an earlier one, so one of every class of duplicates and no two of any. Joining
two lists removes the duplicates of one list after the other, which leaves what the first
keeps in front. Doing either again changes nothing. -/
theorem unique_keeps_firsts (first second : List Value) :
    (unique first = firsts first ∧
      (∀ item ∈ first, ∃ kept ∈ unique first, Duplicate kept item) ∧
      (unique first).Pairwise fun one other => ¬ Duplicate one other) ∧
    concatUnique first second = unique (first ++ second) ∧
    unique first <+: concatUnique first second ∧
    unique (unique first) = unique first ∧
    concatUnique first (concatUnique first second) = concatUnique first second := by
  have kept := unique_eq_firsts first
  have joined : unique first <+: concatUnique first second := by
    rw [concatUnique, unique_append]
    exact List.prefix_append _ _
  exact ⟨⟨kept, fun _ => exists_mem_unique, pairwise_unique first⟩, rfl, joined,
    unique_unique first, concatUnique_concatUnique first second⟩

end Value
end CharacterSheet
