import CharacterSheet.Notation.Quoted
import CharacterSheet.Proofs.Text.Trim

/-!
# Quoted literals

A backslash consumes the character behind it, so of the quotes of its kind a literal ends at the
first one that is free: no backslash consumes it (`Quoted.readInner?_iff_firstFree`). Every text can
be written as a literal, with a backslash in front of each backslash and each quote of the kind that
encloses it, and it is read back as it was (`Quoted.readInner?_encode`). What is no literal begins
with no quote, lacks the free quote, or does not end with it (`Quoted.literal_round_trips`).
-/

namespace CharacterSheet
namespace Quoted

/-- Writes a text for a literal: a backslash in front of every backslash and every quote of the
kind. -/
def encode (quote : Char) (text : Text) : Text :=
  text.flatMap fun c => if c = '\\' ∨ c = quote then ['\\', c] else [c]

/-- Whether, reading from left to right, a backslash at the end of a text consumes what comes
next. -/
def consumesNext (text : Text) : Bool := text.foldl (fun consumed c => !consumed && c == '\\') false

/-- The first quote of a kind that no backslash consumes, with what stands before and behind it. -/
structure FirstFree (quote : Char) (text inner rest : Text) : Prop where
  whole : text = inner ++ quote :: rest
  free : consumesNext inner = false
  first : ∀ earlier behind, inner = earlier ++ quote :: behind → consumesNext earlier = true

theorem encode_cons (quote c : Char) (text : Text) :
    encode quote (c :: text) =
      (if c = '\\' ∨ c = quote then ['\\', c] else [c]) ++ encode quote text :=
  List.flatMap_cons

theorem consumesNext_plain
    {c : Char}
    (plain : c ≠ '\\')
    (text : Text) :
    consumesNext (c :: text) = consumesNext text := by
  have consumesNot : (c == '\\') = false := beq_eq_false_iff_ne.2 plain
  simp only [consumesNext, List.foldl_cons, consumesNot, Bool.and_false]

theorem consumesNext_escaped (c : Char) (text : Text) :
    consumesNext ('\\' :: c :: text) = consumesNext text := by
  simp [consumesNext]

section

variable {quote c : Char}

theorem readInner?_quote (quote : Char) (text : Text) :
    readInner? quote (quote :: text) = some ([], text) := by
  rw [readInner?.eq_def]
  exact if_pos rfl

theorem readInner?_escaped
    (other : quote ≠ '\\')
    (c : Char)
    (text : Text) :
    readInner? quote ('\\' :: c :: text) =
      (readInner? quote text).map fun (inner, rest) => (escape c ++ inner, rest) := by
  rw [readInner?.eq_def]
  dsimp only
  rw [if_neg other.symm, if_pos rfl]

theorem readInner?_plain
    (other : c ≠ quote)
    (plain : c ≠ '\\')
    (text : Text) :
    readInner? quote (c :: text) =
      (readInner? quote text).map fun (inner, rest) => (c :: inner, rest) := by
  rw [readInner?.eq_def]
  dsimp only
  rw [if_neg other, if_neg plain]

end

theorem isQuote_iff {c : Char} : isQuote c = true ↔ c = '\'' ∨ c = '"' := by
  rw [isQuote, Bool.or_eq_true, beq_iff_eq, beq_iff_eq]

/-- The quotes of both kinds are shown, and neither is a backslash. -/
theorem of_isQuote
    {quote : Char}
    (opens : isQuote quote = true) :
    quote ≠ '\\' ∧ isBlank quote = false ∧ escape quote = [quote] := by
  rcases isQuote_iff.1 opens with rfl | rfl <;> decide

namespace FirstFree

variable {quote c : Char} {text inner rest : Text}

theorem here (quote : Char) (rest : Text) : FirstFree quote (quote :: rest) [] rest where
  whole := rfl
  free := rfl
  first _ _ same := by simp at same

theorem not_nil : ¬ FirstFree quote [] inner rest :=
  fun found => List.cons_ne_nil _ _ (List.append_eq_nil_iff.1 found.whole.symm).2

/-- A backslash at the end consumes nothing, and is no quote. -/
theorem not_backslash (other : quote ≠ '\\') : ¬ FirstFree quote ['\\'] inner rest := by
  intro found
  cases inner with
  | nil => exact other (List.cons.inj found.whole).1.symm
  | cons c inner =>
      have none := (List.cons.inj found.whole).2.symm
      exact List.cons_ne_nil _ _ (List.append_eq_nil_iff.1 none).2

/-- Only the first of the free quotes counts. -/
theorem head_iff : FirstFree quote (quote :: text) inner rest ↔ inner = [] ∧ rest = text := by
  constructor
  · intro found
    cases inner with
    | nil => exact ⟨rfl, (List.cons.inj found.whole).2.symm⟩
    | cons c inner =>
        obtain ⟨rfl, -⟩ := List.cons.inj found.whole
        exact absurd (found.first [] inner rfl) (by decide)
  · rintro ⟨rfl, rfl⟩
    exact here quote rest

/-- A quote is behind what is passed or in it. -/
theorem cases_of_append
    {passed before behind : Text}
    (same : passed ++ text = before ++ quote :: behind) :
    (∃ more, before = passed ++ more ∧ text = more ++ quote :: behind) ∨
      ∃ more, passed = before ++ quote :: more := by
  rcases List.append_eq_append_iff.1 same with ⟨more, whole, others⟩ | ⟨more, whole, others⟩
  · exact Or.inl ⟨more, whole, others⟩
  · cases more with
    | nil => exact Or.inl ⟨[], by simpa using whole.symm, others.symm⟩
    | cons c more =>
        cases others
        exact Or.inr ⟨more, whole⟩

/-- A text is passed if every quote in it is consumed, and it consumes nothing behind it. -/
theorem append_iff
    (passed : Text)
    (consumes : ∀ text, consumesNext (passed ++ text) = consumesNext text)
    (consumed : ∀ earlier behind, passed = earlier ++ quote :: behind →
      consumesNext earlier = true) :
    FirstFree quote (passed ++ text) inner rest ↔
      ∃ behind, inner = passed ++ behind ∧ FirstFree quote text behind rest := by
  constructor
  · intro found
    rcases cases_of_append found.whole with ⟨behind, rfl, whole⟩ | ⟨behind, within⟩
    · refine ⟨behind, rfl, whole, (consumes behind).symm.trans found.free, ?_⟩
      rintro earlier more rfl
      rw [← consumes earlier]
      exact found.first (passed ++ earlier) more (List.append_assoc _ _ _).symm
    · exact absurd (found.free.symm.trans (consumed inner behind within)) Bool.false_ne_true
  · rintro ⟨behind, rfl, found⟩
    refine ⟨?_, (consumes behind).trans found.free, fun earlier more same => ?_⟩
    · rw [found.whole, List.append_assoc]
    · rcases cases_of_append same with ⟨others, rfl, whole⟩ | ⟨others, within⟩
      · rw [consumes]
        exact found.first others more whole
      · exact consumed earlier others within

/-- A plain character is passed. -/
theorem plain_iff
    (other : c ≠ quote)
    (plain : c ≠ '\\') :
    FirstFree quote (c :: text) inner rest ↔
      ∃ behind, inner = c :: behind ∧ FirstFree quote text behind rest := by
  refine append_iff [c] (consumesNext_plain plain) fun earlier behind same => ?_
  cases earlier with
  | nil => exact absurd (List.cons.inj same).1 other
  | cons d earlier => cases earlier <;> cases (List.cons.inj same).2

/-- A backslash is passed together with what it consumes. -/
theorem escaped_iff (other : quote ≠ '\\') :
    FirstFree quote ('\\' :: c :: text) inner rest ↔
      ∃ behind, inner = '\\' :: c :: behind ∧ FirstFree quote text behind rest := by
  refine append_iff ['\\', c] (consumesNext_escaped c) fun earlier behind same => ?_
  match earlier with
  | [] => exact absurd (List.cons.inj same).1.symm other
  | [d] =>
      obtain ⟨rfl, -⟩ := List.cons.inj same
      rfl
  | d :: e :: earlier => cases earlier <;> cases (List.cons.inj (List.cons.inj same).2).2

end FirstFree

/-- What is read in front of the inside of a literal changes nothing about what is behind it. -/
theorem exists_read_map_iff
    (write : Text → Text)
    {inside? : Option (Text × Text)}
    {rest : Text} :
    (∃ read, (inside?.map fun (inner, rest) => (write inner, rest)) = some (read, rest)) ↔
      ∃ read, inside? = some (read, rest) := by
  cases inside? with
  | none => simp
  | some inside => simp [Prod.ext_iff]

/-- Reading the inside of a literal ends behind the first quote that is free. -/
theorem readInner?_iff_firstFree
    {quote : Char}
    (other : quote ≠ '\\')
    (text rest : Text) :
    (∃ read, readInner? quote text = some (read, rest)) ↔
      ∃ inner, FirstFree quote text inner rest := by
  fun_induction readInner? quote text with
  | case1 => exact iff_of_false nofun fun ⟨_, found⟩ => found.not_nil
  | case2 text =>
      simp only [Option.some.injEq, Prod.mk.injEq, FirstFree.head_iff]
      exact ⟨fun ⟨_, _, same⟩ => ⟨[], rfl, same.symm⟩, fun ⟨_, _, same⟩ => ⟨[], rfl, same.symm⟩⟩
  | case3 => exact iff_of_false nofun fun ⟨_, found⟩ => found.not_backslash other
  | case4 d text _ inductionHypothesis =>
      rw [exists_read_map_iff (escape d ++ ·), inductionHypothesis]
      simp [FirstFree.escaped_iff other]
  | case5 c text notQuote plain inductionHypothesis =>
      rw [exists_read_map_iff (c :: ·), inductionHypothesis]
      simp [FirstFree.plain_iff notQuote plain]

/-- What is read does not end with the text if no quote is free or the first one has something
behind it. -/
theorem readInner?_ne_iff
    {quote : Char}
    (other : quote ≠ '\\')
    (text : Text) :
    (∀ read, readInner? quote text ≠ some (read, [])) ↔
      (∀ inner rest, ¬ FirstFree quote text inner rest) ∨
        ∃ inner rest, FirstFree quote text inner rest ∧ rest ≠ [] := by
  have firstFree := readInner?_iff_firstFree other text
  constructor
  · intro unread
    by_cases found : ∃ inner rest, FirstFree quote text inner rest
    · obtain ⟨inner, rest, found⟩ := found
      refine Or.inr ⟨inner, rest, found, ?_⟩
      rintro rfl
      obtain ⟨read, whole⟩ := (firstFree []).2 ⟨inner, found⟩
      exact unread read whole
    · exact Or.inl fun inner rest first => found ⟨inner, rest, first⟩
  · intro lacks read whole
    rcases lacks with missing | ⟨inner, rest, found, behind⟩
    · obtain ⟨inner, found⟩ := (firstFree []).1 ⟨read, whole⟩
      exact missing inner [] found
    · obtain ⟨_, same⟩ := (firstFree rest).2 ⟨inner, found⟩
      cases whole.symm.trans same
      exact behind rfl

/-- A literal reads as it was written. -/
theorem readInner?_encode
    {quote : Char}
    (opens : isQuote quote = true)
    (text rest : Text) :
    readInner? quote (encode quote text ++ quote :: rest) = some (text, rest) := by
  obtain ⟨other, -, escaped⟩ := of_isQuote opens
  induction text with
  | nil => exact readInner?_quote quote rest
  | cons c text inductionHypothesis =>
      rw [encode_cons]
      split
      · next special =>
          have standsForItself : escape c = [c] := by
            rcases special with rfl | rfl
            · rfl
            · exact escaped
          change readInner? quote ('\\' :: c :: (encode quote text ++ quote :: rest)) = _
          rw [readInner?_escaped other, inductionHypothesis, Option.map_some, standsForItself]
          rfl
      · next plain =>
          rw [not_or] at plain
          change readInner? quote (c :: (encode quote text ++ quote :: rest)) = _
          rw [readInner?_plain plain.2 plain.1, inductionHypothesis, Option.map_some]

/-- A literal is what is left of the argument without the blanks around it. -/
theorem literal?_eq_some_iff {argument read : Text} :
    literal? argument = some read ↔
      ∃ quote text, Text.trim argument = quote :: text ∧ isQuote quote = true ∧
        readInner? quote text = some (read, []) := by
  unfold literal?
  cases Text.trim argument with
  | nil => simp
  | cons quote text =>
      simp only [List.cons.injEq, Option.ite_none_right_eq_some]
      constructor
      · rintro ⟨opens, same⟩
        refine ⟨quote, text, ⟨rfl, rfl⟩, opens, ?_⟩
        split at same
        · next found =>
            cases same
            exact found
        · cases same
      · rintro ⟨_, _, ⟨rfl, rfl⟩, opens, found⟩
        exact ⟨opens, by rw [found]⟩

theorem literal?_eq_none_iff {argument : Text} :
    literal? argument = none ↔
      ∀ quote text, Text.trim argument = quote :: text → isQuote quote = true →
        ∀ read, readInner? quote text ≠ some (read, []) := by
  simp only [Option.eq_none_iff_forall_ne_some, ne_eq, literal?_eq_some_iff]
  exact ⟨fun none quote text whole opens read found =>
      none read ⟨quote, text, whole, opens, found⟩,
    fun unread read ⟨quote, text, whole, opens, found⟩ => unread quote text whole opens read found⟩

/-- Every text can be quoted: written with a backslash in front of each backslash and each quote of
the kind that encloses it, it is read back as it was, whatever blanks stand around the literal. An
argument is no literal exactly if it does not begin with a quote, or of the quotes of that kind
behind it the first one that no backslash consumes is missing or is not the last character. -/
theorem literal_round_trips :
    (∀ {quote : Char} {before behind : Text},
      isQuote quote = true →
      (∀ c ∈ before, isBlank c = true) →
      (∀ c ∈ behind, isBlank c = true) →
      ∀ text, literal? (before ++ quote :: (encode quote text ++ quote :: behind)) = some text) ∧
    ∀ argument, literal? argument = none ↔
      (∀ c ∈ (Text.trim argument).head?, isQuote c = false) ∨
      ∃ quote text, Text.trim argument = quote :: text ∧ isQuote quote = true ∧
        ((∀ inner rest, ¬ FirstFree quote text inner rest) ∨
          ∃ inner rest, FirstFree quote text inner rest ∧ rest ≠ []) := by
  constructor
  · intro quote before behind opens blankBefore blankBehind text
    obtain ⟨-, shown, -⟩ := of_isQuote opens
    refine literal?_eq_some_iff.2 ⟨quote, encode quote text ++ [quote], ?_, opens,
      readInner?_encode opens text []⟩
    calc
      Text.trim (before ++ quote :: (encode quote text ++ quote :: behind))
      _ = Text.trim (before ++ (quote :: (encode quote text ++ [quote]) ++ behind)) := by simp
      _ = Text.trim (quote :: (encode quote text ++ [quote])) :=
        Text.trim_padded blankBefore blankBehind _
      _ = quote :: (encode quote text ++ [quote]) := Text.trim_of_shown shown shown _
  · intro argument
    rw [literal?_eq_none_iff]
    cases Text.trim argument with
    | nil => simp
    | cons quote text =>
        cases opens : isQuote quote with
        | false => simp [opens]
        | true => simp [opens, readInner?_ne_iff (of_isQuote opens).1]

/-- Quotes, backslashes and letters behind them are read back; a literal with something behind it
is none. -/
theorem literal_round_trips_of_apostrophe :
    let text := "it's \\n, \"so\"\\".toList
    let written := "\t'it\\'s \\\\n, \"so\"\\\\' ".toList
    isQuote '\'' = true ∧ (∀ c ∈ ['\t'], isBlank c = true) ∧ (∀ c ∈ [' '], isBlank c = true) ∧
      written = ['\t'] ++ '\'' :: (encode '\'' text ++ '\'' :: [' ']) ∧
      literal? written = some text ∧ literal? "'a' b".toList = none := by
  intro text written
  have whole : written = ['\t'] ++ '\'' :: (encode '\'' text ++ '\'' :: [' ']) := by
    decide +kernel
  have behind : FirstFree '\'' "a' b".toList ['a'] " b".toList :=
    (FirstFree.plain_iff (by decide) (by decide)).2 ⟨[], rfl, .here _ _⟩
  have tabBlank : ∀ c ∈ ['\t'], isBlank c = true := List.forall_mem_singleton.2 rfl
  have spaceBlank : ∀ c ∈ [' '], isBlank c = true := List.forall_mem_singleton.2 rfl
  refine ⟨rfl, tabBlank, spaceBlank, whole, ?_, ?_⟩
  · rw [whole]
    exact literal_round_trips.1 rfl tabBlank spaceBlank text
  · exact (literal_round_trips.2 _).2
      (Or.inr ⟨'\'', _, rfl, rfl, Or.inr ⟨['a'], _, behind, by decide⟩⟩)

end Quoted
end CharacterSheet
