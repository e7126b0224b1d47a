import CharacterSheet.Proofs.Decimal.Shown
import CharacterSheet.Proofs.Value.Duplicates
import CharacterSheet.Value.Parser

/-!
# What a compact text tells

A written string is read back as it was, and a value's text ends where a delimiter follows
(`Value.tells_written`). So values of the same compact text are the same string, scalars of the same
text, or collections whose parts have the same texts (`Value.writtenAlike_of_compact_eq`).
-/

namespace CharacterSheet

theorem hexValue?_hexDigit (n : Nat) :
    Value.hexValue? (hexDigit n) = some (n % 16) := by
  have each : ∀ digit < 16, Value.hexValue? (Nat.digitChar digit) = some digit := by decide
  exact each _ (Nat.mod_lt n (by decide))

namespace Number

theorem magnitudeText_ne_nil (d : Dyadic) : magnitudeText d ≠ [] := by
  unfold magnitudeText positional scientific
  dsimp only
  split_ifs <;> simp

theorem text_ne_nil (n : Number) : n.text ≠ [] := by
  cases n with
  | integer n =>
      unfold text Digits.ofInt
      dsimp only
      split
      · exact List.cons_ne_nil _ _
      · exact Digits.ofNat_ne_nil _
  | real x finite =>
      obtain ⟨d, read⟩ := Dyadic.exists_of_isFinite finite
      simp [text, read, magnitudeText_ne_nil]

end Number

namespace Value

theorem readEscape?_control
    {c : Char}
    (control : c.toNat < 32)
    (rest : Text) :
    readEscape? ('u' :: '0' :: '0' :: hexDigit (c.toNat / 16) :: hexDigit c.toNat :: rest) =
      some (c, rest) := by
  have zero : hexValue? '0' = some 0 := by decide
  have digits : c.toNat / 16 % 16 * 16 + c.toNat % 16 = c.toNat := by omega
  have small : c.toNat < 0xD800 := by omega
  simp [readEscape?, readCodeUnits?, readHex?, hexValue?_hexDigit, zero, digits, small]

/-- An escaped character is read as the character. -/
theorem readString?_escapedChar
    (done : Text)
    (fuel : Nat)
    (c : Char)
    (rest : Text) :
    readString? done (fuel + 1) (escapedChar c ++ rest) = readString? (c :: done) fuel rest := by
  unfold escapedChar
  split_ifs with quote backslash newline carriage tab backspace feed control
  -- The short escapes are read by evaluation.
  all_goals try (subst_vars; rfl)
  · show readString? done (fuel + 1) ('\\' :: 'u' :: '0' :: '0' :: _ :: _ :: rest) = _
    rw [readString?]
    simp [readEscape?_control control]
  · rw [List.singleton_append, readString?]
    simp [quote, backslash, control]

/-- A written string is read back. -/
theorem readString?_written
    {s : Text}
    {fuel : Nat}
    (enough : s.length < fuel)
    (done rest : Text) :
    readString? done fuel (s.flatMap escapedChar ++ '"' :: rest) =
      some (String.ofList (done.reverse ++ s), rest) := by
  induction s generalizing done fuel with
  | nil =>
      obtain ⟨fuel, rfl⟩ := Nat.exists_eq_succ_of_ne_zero (Nat.ne_of_gt enough)
      simp [readString?]
  | cons c s inductionHypothesis =>
      obtain ⟨fuel, rfl⟩ := Nat.exists_eq_succ_of_ne_zero (Nat.ne_of_gt (Nat.zero_lt_of_lt enough))
      have enough : s.length < fuel := Nat.lt_of_succ_lt_succ enough
      rw [List.flatMap_cons, List.append_assoc, readString?_escapedChar,
        inductionHypothesis enough]
      simp

/-- No written string begins another one. -/
theorem writtenString_append_inj
    {s t : String}
    {x y : Text}
    (same : writtenString s ++ x = writtenString t ++ y) :
    s = t ∧ x = y := by
  let fuel := s.toList.length + t.toList.length + 1
  have read : readString? [] fuel (s.toList.flatMap escapedChar ++ '"' :: x) =
      readString? [] fuel (t.toList.flatMap escapedChar ++ '"' :: y) := by
    simp only [writtenString, List.cons_append, List.append_assoc, List.cons.injEq] at same
    exact congrArg _ same.2
  rw [readString?_written (by omega), readString?_written (by omega)] at read
  simpa using read

/-- The comma and the closing brackets. -/
def IsDelimiter (c : Char) : Prop := c = ',' ∨ c = ']' ∨ c = '\x7d'

instance : DecidablePred IsDelimiter := fun _ => inferInstanceAs (Decidable (_ ∨ _))

/-- A text is empty or begins with a delimiter, as what follows a value does. -/
def Delimited (text : Text) : Prop := ∀ c ∈ text.head?, IsDelimiter c

theorem delimited_cons
    {c : Char}
    (delimiter : IsDelimiter c)
    (text : Text) :
    Delimited (c :: text) := by
  rintro _ ⟨⟩
  exact delimiter

/-- A text begins with something that is no delimiter. -/
def Begun (text : Text) : Prop := ∃ c rest, text = c :: rest ∧ ¬ IsDelimiter c

/-- The text of a part shows a view of it and ends where a delimiter follows. -/
def SelfDelimiting {α β : Type} (text : α → Text) (view : α → β) (part : α) : Prop :=
  ∀ other x y, Delimited x → Delimited y → text part ++ x = text other ++ y →
    view part = view other ∧ x = y

/-- What stands behind the first of some texts with commas between them. -/
def behind (texts : List Text) (rest : Text) : Text :=
  if texts = [] then rest else ',' :: (List.intercalate [','] texts ++ rest)

theorem intercalate_cons_append
    (first : Text)
    (texts : List Text)
    (rest : Text) :
    List.intercalate [','] (first :: texts) ++ rest = first ++ behind texts rest := by
  unfold behind
  split
  · next none => simp [none]
  · next more => simp [List.intercalate_cons_of_ne_nil more]

theorem delimited_behind
    {close : Char}
    (delimiter : IsDelimiter close)
    (texts : List Text)
    (rest : Text) :
    Delimited (behind texts (close :: rest)) := by
  unfold behind
  split
  · exact delimited_cons delimiter rest
  · exact delimited_cons (by decide) _

/-- Parts with commas between them and a bracket behind them are told apart if each one is. -/
theorem intercalate_append_inj
    {α β : Type}
    {text : α → Text}
    {view : α → β}
    (begun : ∀ part, Begun (text part))
    {close : Char}
    (delimiter : IsDelimiter close)
    (notComma : close ≠ ',')
    {parts others : List α}
    (each : ∀ part ∈ parts, SelfDelimiting text view part)
    {x y : Text}
    (same : List.intercalate [','] (parts.map text) ++ close :: x =
      List.intercalate [','] (others.map text) ++ close :: y) :
    parts.map view = others.map view ∧ x = y := by
  have notClosed (part : α) (more : List Text) (x y : Text) :
      close :: x ≠ List.intercalate [','] (text part :: more) ++ y := by
    obtain ⟨c, rest, begins, noDelimiter⟩ := begun part
    rw [intercalate_cons_append, begins]
    rintro ⟨⟩
    exact noDelimiter delimiter
  induction parts generalizing others with
  | nil =>
      cases others with
      | nil => exact ⟨rfl, (List.cons.inj same).2⟩
      | cons other others => exact absurd same (notClosed other _ x _)
  | cons part parts inductionHypothesis =>
      cases others with
      | nil => exact absurd same.symm (notClosed part _ y _)
      | cons other others =>
          obtain ⟨first, each⟩ := List.forall_mem_cons.1 each
          rw [List.map_cons, List.map_cons, intercalate_cons_append,
            intercalate_cons_append] at same
          obtain ⟨alike, rest⟩ :=
            first other _ _ (delimited_behind delimiter _ x) (delimited_behind delimiter _ y) same
          have later : List.intercalate [','] (parts.map text) ++ close :: x =
              List.intercalate [','] (others.map text) ++ close :: y := by
            unfold behind at rest
            split at rest <;> split at rest
            · next none noOther => rw [none, noOther, rest]
            · exact absurd (List.cons.inj rest).1 notComma
            · exact absurd (List.cons.inj rest).1.symm notComma
            · exact (List.cons.inj rest).2
          obtain ⟨views, behind⟩ := inductionHypothesis each later
          exact ⟨congrArg₂ List.cons alike views, behind⟩

/-- The key of a field and the text of its value. -/
def entry (field : String × Value) : String × Text := (field.1, field.2.written)

/-- The text of a field. -/
def writtenField (field : String × Value) : Text := writtenString field.1 ++ ':' :: field.2.written

theorem writtenItems_eq_intercalate :
    (items : List Value) → writtenItems items = List.intercalate [','] (items.map written)
  | [] => rfl
  | [item] => by simp [writtenItems]
  | item :: other :: items => by
      rw [writtenItems, writtenItems_eq_intercalate (other :: items)]
      · simp
      · simp

theorem writtenFields_eq_intercalate :
    (fields : List (String × Value)) →
      writtenFields fields = List.intercalate [','] (fields.map writtenField)
  | [] => rfl
  | [field] => by simp [writtenFields, writtenField]
  | (key, value) :: other :: fields => by
      rw [writtenFields, writtenFields_eq_intercalate (other :: fields)]
      · simp [writtenField]
      · simp

/-- A value that is neither a string nor a collection. -/
inductive Scalar : Value → Prop
  | null : Scalar .null
  | boolean (b : Bool) : Scalar (.boolean b)
  | number (n : Number) : Scalar (.number n)

/-- A character that a scalar may be written with. -/
def IsPlain (c : Char) : Prop := Number.IsTextChar c ∨ c.isLower = true

theorem IsPlain.not_isDelimiter
    {c : Char}
    (plain : IsPlain c) :
    ¬ IsDelimiter c := by
  rintro (rfl | rfl | rfl) <;> revert plain <;> unfold IsPlain Number.IsTextChar <;> decide

/-- What begins a string or a collection. -/
def IsOpening (c : Char) : Prop := c = '"' ∨ c = '[' ∨ c = '\x7b'

instance : DecidablePred IsOpening := fun _ => inferInstanceAs (Decidable (_ ∨ _))

theorem IsPlain.not_isOpening
    {c : Char}
    (plain : IsPlain c) :
    ¬ IsOpening c := by
  rintro (rfl | rfl | rfl) <;> revert plain <;> unfold IsPlain Number.IsTextChar <;> decide

theorem Scalar.isPlain
    {value : Value}
    (scalar : value.Scalar) :
    ∀ c ∈ value.written, IsPlain c := by
  have lower {text : Text} (each : ∀ c ∈ text, c.isLower = true) : ∀ c ∈ text, IsPlain c :=
    fun c mem => .inr (each c mem)
  cases scalar with
  | null => exact lower (by simp [written])
  | boolean b => cases b <;> exact lower (by simp [written])
  | number n => exact fun c mem => .inl (n.isTextChar_text c mem)

theorem written_ne_nil (value : Value) : value.written ≠ [] := by
  cases value with
  | number n => exact n.text_ne_nil
  | boolean b => cases b <;> simp [written]
  | null | string | array | object => simp [written, writtenString]

theorem Scalar.exists_cons
    {value : Value}
    (scalar : value.Scalar) :
    ∃ c rest, value.written = c :: rest ∧ IsPlain c := by
  obtain ⟨c, rest, begins⟩ := List.exists_cons_of_ne_nil value.written_ne_nil
  exact ⟨c, rest, begins, scalar.isPlain c (by rw [begins]; exact List.mem_cons_self)⟩

theorem Scalar.begun
    {value : Value}
    (scalar : value.Scalar) :
    Begun value.written := by
  obtain ⟨c, rest, begins, plain⟩ := scalar.exists_cons
  exact ⟨c, rest, begins, plain.not_isDelimiter⟩

theorem Scalar.written_append_ne
    {value : Value}
    (scalar : value.Scalar)
    {c : Char}
    (opening : IsOpening c)
    (x rest : Text) :
    value.written ++ x ≠ c :: rest := by
  obtain ⟨first, more, begins, plain⟩ := scalar.exists_cons
  rw [begins]
  rintro ⟨⟩
  exact plain.not_isOpening opening

theorem begun_written (value : Value) : Begun value.written := by
  cases value with
  | string s => exact ⟨'"', _, rfl, by decide⟩
  | array items => exact ⟨'[', _, rfl, by decide⟩
  | object fields => exact ⟨'\x7b', _, rfl, by decide⟩
  | null | boolean | number => exact Scalar.begun (by constructor)

theorem begun_writtenField (field : String × Value) : Begun (writtenField field) :=
  ⟨'"', _, rfl, by decide⟩

theorem plain_append_inj
    {s t x y : Text}
    (sPlain : ∀ c ∈ s, IsPlain c)
    (tPlain : ∀ c ∈ t, IsPlain c)
    (xDelimited : Delimited x)
    (yDelimited : Delimited y)
    (same : s ++ x = t ++ y) :
    s = t ∧ x = y := by
  induction s generalizing t with
  | nil =>
      cases t with
      | nil => exact ⟨rfl, same⟩
      | cons c t =>
          have isHead : c ∈ x.head? := by rw [show x = c :: (t ++ y) from same]; rfl
          exact absurd (xDelimited c isHead) (tPlain c List.mem_cons_self).not_isDelimiter
  | cons c s inductionHypothesis =>
      cases t with
      | nil =>
          have isHead : c ∈ y.head? := by rw [show y = c :: (s ++ x) from same.symm]; rfl
          exact absurd (yDelimited c isHead) (sPlain c List.mem_cons_self).not_isDelimiter
      | cons d t =>
          obtain ⟨rfl, rest⟩ := List.cons.inj same
          obtain ⟨texts, behind⟩ := inductionHypothesis
            (fun c mem => sPlain c (List.mem_cons_of_mem _ mem))
            (fun c mem => tPlain c (List.mem_cons_of_mem _ mem)) rest
          exact ⟨congrArg _ texts, behind⟩

/-- Two values are written alike: they are scalars of one text, the same string, or collections
whose parts have the same texts. -/
inductive WrittenAlike : Value → Value → Prop
  | scalar {value other : Value} (scalar : value.Scalar) (otherScalar : other.Scalar)
      (same : value.written = other.written) : WrittenAlike value other
  | string (s : String) : WrittenAlike (.string s) (.string s)
  | array {items others : List Value} (same : items.map written = others.map written) :
      WrittenAlike (.array items) (.array others)
  | object {fields others : Fields} (same : fields.map entry = others.map entry) :
      WrittenAlike (.object fields) (.object others)

theorem WrittenAlike.written_eq
    {value other : Value}
    (alike : WrittenAlike value other) :
    value.written = other.written := by
  have isText : writtenField = (fun part => writtenString part.1 ++ ':' :: part.2) ∘ entry := rfl
  cases alike with
  | scalar _ _ same => exact same
  | string => rfl
  | array same => simp only [written, writtenItems_eq_intercalate, same]
  | object same =>
      simp only [written, writtenFields_eq_intercalate, isText, ← List.map_map, same]

/-- The text of a value tells what is written and where it ends, if a delimiter follows. -/
def Tells (value : Value) : Prop :=
  ∀ other x y, Delimited x → Delimited y → value.written ++ x = other.written ++ y →
    WrittenAlike value other ∧ x = y

theorem Tells.selfDelimiting
    {value : Value}
    (tells : value.Tells) :
    SelfDelimiting written written value :=
  fun other x y delimited otherDelimited same =>
    (tells other x y delimited otherDelimited same).imp_left WrittenAlike.written_eq

theorem Tells.selfDelimiting_field
    {field : String × Value}
    (tells : Tells field.2) :
    SelfDelimiting writtenField entry field := by
  intro other x y delimited otherDelimited same
  simp only [writtenField, List.append_assoc, List.cons_append] at same
  obtain ⟨key, rest⟩ := writtenString_append_inj same
  obtain ⟨alike, behind⟩ := tells _ x y delimited otherDelimited (List.cons.inj rest).2
  exact ⟨Prod.ext key alike.written_eq, behind⟩

theorem Scalar.tells
    {value : Value}
    (scalar : value.Scalar) :
    value.Tells := by
  intro other x y delimited otherDelimited same
  cases other with
  | string => exact absurd same (scalar.written_append_ne (by decide) x _)
  | array => exact absurd same (scalar.written_append_ne (by decide) x _)
  | object => exact absurd same (scalar.written_append_ne (by decide) x _)
  | null | boolean | number =>
      obtain ⟨texts, behind⟩ := plain_append_inj scalar.isPlain (Scalar.isPlain (by constructor))
        delimited otherDelimited same
      exact ⟨.scalar scalar (by constructor) texts, behind⟩

theorem tells_string (s : String) : Tells (.string s) := by
  intro other x y _ _ same
  cases other with
  | string t =>
      obtain ⟨rfl, behind⟩ := writtenString_append_inj same
      exact ⟨.string s, behind⟩
  | array | object => cases same
  | null | boolean | number =>
      exact absurd same.symm (Scalar.written_append_ne (by constructor) (by decide) y _)

theorem tells_array
    {items : List Value}
    (each : ∀ item ∈ items, Tells item) :
    Tells (.array items) := by
  intro other x y _ _ same
  cases other with
  | array others =>
      simp only [written, writtenItems_eq_intercalate, List.cons_append, List.append_assoc,
        List.cons.injEq, true_and] at same
      obtain ⟨texts, behind⟩ := intercalate_append_inj begun_written (by decide) (by decide)
        (fun item mem => (each item mem).selfDelimiting) same
      exact ⟨.array texts, behind⟩
  | string | object => cases same
  | null | boolean | number =>
      exact absurd same.symm (Scalar.written_append_ne (by constructor) (by decide) y _)

theorem tells_object
    {fields : Fields}
    (each : ∀ field ∈ fields, Tells field.2) :
    Tells (.object fields) := by
  intro other x y _ _ same
  cases other with
  | object others =>
      simp only [written, writtenFields_eq_intercalate, List.cons_append, List.append_assoc,
        List.cons.injEq, true_and] at same
      obtain ⟨entries, behind⟩ := intercalate_append_inj begun_writtenField (by decide) (by decide)
        (fun field mem => (each field mem).selfDelimiting_field) same
      exact ⟨.object entries, behind⟩
  | string | array => cases same
  | null | boolean | number =>
      exact absurd same.symm (Scalar.written_append_ne (by constructor) (by decide) y _)

mutual

/-- Every text of a value tells what is written. -/
theorem tells_written (value : Value) : value.Tells := by
  cases value with
  | array items => exact tells_array (tells_items items)
  | object fields => exact tells_object (tells_fields fields)
  | string s => exact tells_string s
  | null | boolean | number => exact Scalar.tells (by constructor)

theorem tells_items (items : List Value) : ∀ item ∈ items, Tells item := by
  cases items with
  | nil => exact fun _ mem => nomatch mem
  | cons item items => exact List.forall_mem_cons.2 ⟨tells_written item, tells_items items⟩

theorem tells_fields (fields : List (String × Value)) : ∀ field ∈ fields, Tells field.2 := by
  cases fields with
  | nil => exact fun _ mem => nomatch mem
  | cons field fields =>
      obtain ⟨key, value⟩ := field
      exact List.forall_mem_cons.2 ⟨tells_written value, tells_fields fields⟩

end

theorem writtenAlike_of_written_eq
    {value other : Value}
    (same : value.written = other.written) :
    WrittenAlike value other := by
  have nothing : Delimited [] := fun _ mem => nomatch mem
  exact (tells_written value other [] [] nothing nothing (congrArg (· ++ []) same)).1

/-- Values of the same compact text are written alike. -/
theorem writtenAlike_of_compact_eq
    {value other : Value}
    (same : value.compact = other.compact) :
    WrittenAlike value other :=
  writtenAlike_of_written_eq (String.ofList_injective same)

theorem string?_eq_of_written_eq
    {value other : Value}
    (same : value.written = other.written) :
    value.string? = other.string? := by
  cases writtenAlike_of_written_eq same with
  | scalar scalar otherScalar => cases scalar <;> cases otherScalar <;> rfl
  | string | array | object => rfl

theorem bind_string?_eq_of_map_written_eq
    {value? other? : Option Value}
    (same : value?.map written = other?.map written) :
    value?.bind string? = other?.bind string? := by
  cases value? with
  | none =>
      cases other? with
      | none => rfl
      | some other => cases same
  | some value =>
      cases other? with
      | none => cases same
      | some other => exact string?_eq_of_written_eq (Option.some.inj same)

theorem lookup_map_entry
    (key : String)
    (fields : Fields) :
    (fields.map entry).lookup key = (Fields.get? key fields).map written := by
  induction fields with
  | nil => rfl
  | cons field fields inductionHypothesis =>
      obtain ⟨name, value⟩ := field
      rw [List.map_cons, entry, List.lookup_cons, Fields.get?_cons, inductionHypothesis]
      by_cases same : name = key
      · simp [same]
      · have apart : (key == name) = false := beq_false_of_ne (Ne.symm same)
        simp [same, apart]

/-- Objects of the same texts have the same strings in their fields. -/
theorem get?_eq_of_map_entry_eq
    {fields others : Fields}
    (same : fields.map entry = others.map entry)
    (key : String) :
    (Fields.get? key fields).map written = (Fields.get? key others).map written := by
  rw [← lookup_map_entry, ← lookup_map_entry, same]

end Value
end CharacterSheet
