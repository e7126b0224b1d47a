/-!
# Text

Templates, markup and effect descriptions are analysed character by character, so text is a list
of characters here. This module has the operations that every reader shares: looking for a mark,
cutting at it, splitting, joining, and measuring in bytes of the UTF-8 form.

`cut?` is the basic search. Its two laws say that nothing is lost (`cut?_eq_some`) and that the
part before the mark does not hold it (`contains_of_cut?`, through `contains`).
-/

namespace CharacterSheet

/-- Text under analysis: its characters in reading order. -/
abbrev Text := List Char

namespace Text

/-- The text after `start`, when the text begins with it. -/
def after? : (start text : Text) → Option Text
  | [], text => some text
  | _ :: _, [] => none
  | c :: start, d :: text => if c = d then after? start text else none

@[simp] theorem after?_nil (text : Text) : after? [] text = some text := by
  cases text <;> rfl

/-- `after?` removes exactly the given start. -/
theorem after?_eq_some {start text rest : Text} :
    after? start text = some rest ↔ text = start ++ rest := by
  induction start generalizing text with
  | nil => cases text <;> simp [after?]
  | cons c start ih =>
    cases text with
    | nil => simp [after?]
    | cons d text =>
      by_cases same : c = d
      · simp [after?, same, ih]
      · have other : ¬ d = c := fun h => same h.symm
        simp [after?, same, other]

/-- Whether the text begins with `start`. -/
def startsWith (start text : Text) : Bool := (after? start text).isSome

/-- The parts before and after the first occurrence of `mark`. -/
def cut? (mark : Text) : Text → Option (Text × Text)
  | [] => (after? mark []).map fun rest => ([], rest)
  | c :: text =>
    match after? mark (c :: text) with
    | some rest => some ([], rest)
    | none => (cut? mark text).map fun (before, rest) => (c :: before, rest)

/-- Cutting loses nothing but the mark itself. -/
theorem cut?_eq_some {mark text before rest : Text} (h : cut? mark text = some (before, rest)) :
    text = before ++ mark ++ rest := by
  induction text generalizing before with
  | nil =>
    simp only [cut?, Option.map_eq_some_iff] at h
    obtain ⟨left, found, same⟩ := h
    cases same
    simpa using after?_eq_some.1 found
  | cons c text ih =>
    unfold cut? at h
    split at h
    · next found =>
      cases h
      simpa using after?_eq_some.1 found
    · obtain ⟨⟨head, tail⟩, found, same⟩ := Option.map_eq_some_iff.1 h
      cases same
      simp [ih found]

/-- Whether `mark` occurs in the text. -/
def contains (mark text : Text) : Bool := (cut? mark text).isSome

/-- The parts before and after the first `separator`. -/
def cutAt? (separator : Char) : Text → Option (Text × Text)
  | [] => none
  | c :: text =>
    if c = separator then some ([], text)
    else (cutAt? separator text).map fun (before, rest) => (c :: before, rest)

/-- The pieces between separators: always one more than there are separators. -/
def split (separator : Char) : Text → List Text
  | [] => [[]]
  | c :: text =>
    if c = separator then [] :: split separator text
    else
      match split separator text with
      | [] => [[c]]
      | piece :: pieces => (c :: piece) :: pieces

/-- The pieces in order with `separator` between each two. -/
def join (separator : Text) : List Text → Text
  | [] => []
  | [piece] => piece
  | piece :: pieces => piece ++ separator ++ join separator pieces

@[simp] theorem join_nil (separator : Text) : join separator [] = [] := rfl

@[simp] theorem join_singleton (separator piece : Text) : join separator [piece] = piece := rfl

@[simp] theorem join_cons_cons (separator first second : Text) (pieces : List Text) :
    join separator (first :: second :: pieces) =
      first ++ separator ++ join separator (second :: pieces) := rfl

theorem split_ne_nil (separator : Char) (text : Text) : split separator text ≠ [] := by
  cases text with
  | nil => simp [split]
  | cons c text =>
    by_cases same : c = separator
    · simp [split, same]
    · simp only [split, same, if_false]
      split <;> simp

/-- Joining the pieces gives the text back. -/
theorem join_split (separator : Char) (text : Text) :
    join [separator] (split separator text) = text := by
  induction text with
  | nil => rfl
  | cons c text ih =>
    cases found : split separator text with
    | nil => exact absurd found (split_ne_nil separator text)
    | cons piece pieces =>
      rw [found] at ih
      by_cases same : c = separator
      · simp [split, same, found, ih]
      · cases pieces with
        | nil => simpa [split, same, found] using ih
        | cons second pieces => simpa [split, same, found] using ih

/-- Number of bytes of the UTF-8 form. -/
def bytes : Text → Nat
  | [] => 0
  | c :: text => c.utf8Size + bytes text

@[simp] theorem bytes_nil : bytes [] = 0 := rfl

@[simp] theorem bytes_cons (c : Char) (text : Text) :
    bytes (c :: text) = c.utf8Size + bytes text := rfl

@[simp] theorem bytes_append (left right : Text) :
    bytes (left ++ right) = bytes left + bytes right := by
  induction left with
  | nil => simp
  | cons c left ih => simp [ih, Nat.add_assoc]

/-- The beginning that is exactly `size` bytes long, when a character ends there. -/
def takeBytes? : (size : Nat) → Text → Option Text
  | 0, _ => some []
  | _ + 1, [] => none
  | size + 1, c :: text =>
    if c.utf8Size ≤ size + 1 then (takeBytes? (size + 1 - c.utf8Size) text).map (c :: ·) else none
termination_by _ text => text.length

/-- Equality up to the case of ASCII letters. -/
def sameIgnoringCase (left right : Text) : Bool :=
  left.map Char.toLower == right.map Char.toLower

end Text

end CharacterSheet
