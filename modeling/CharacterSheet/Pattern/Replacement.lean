import CharacterSheet.Text.Basic
import CharacterSheet.Decimal.Digits

/-!
# Replacement texts

A replacement mentions groups of a match: `$1` or `$12` by number, `$<name>` by name, `$&` for the
whole match, and `$$` for a dollar sign. `Replacement.braced` writes every mention in braces, so
that none can take in the text behind it; `Replacement.expand` puts the texts of groups in place of
mentions in braces, and of those without braces, which reach as far as a name can.
-/

namespace CharacterSheet

namespace Text

/-- What is behind a separator is shorter than the text. -/
theorem length_lt_of_cutAt? {separator : Char} {text before rest : Text}
    (h : cutAt? separator text = some (before, rest)) : rest.length < text.length := by
  induction text generalizing before with
  | nil => simp [cutAt?] at h
  | cons c text ih =>
    unfold cutAt? at h
    split at h
    · cases h
      simp
    · obtain ⟨⟨head, tail⟩, found, same⟩ := Option.map_eq_some_iff.1 h
      cases same
      have := ih found
      simp only [List.length_cons]
      omega

end Text

namespace Replacement

/-- The braced mention of a group. -/
def mention (name : Text) : Text := '$' :: '\x7b' :: (name ++ ['\x7d'])

/-- The replacement with every mention in braces, for a pattern with `groups` groups, the whole
match included. Of two digits the second counts only if there is such a group, and a dollar sign
that mentions nothing is doubled. -/
def braced (groups : Nat) : Text → Text
  | [] => []
  | '$' :: '$' :: rest => '$' :: '$' :: braced groups rest
  | '$' :: '&' :: rest => mention ['0'] ++ braced groups rest
  | '$' :: '<' :: rest =>
    match h : Text.cutAt? '>' rest with
    | some (name, behind) =>
      have := Text.length_lt_of_cutAt? h
      mention name ++ braced groups behind
    | none => '$' :: '$' :: '<' :: braced groups rest
  | '$' :: d :: rest =>
    if d.isDigit then
      match rest with
      | e :: behind =>
        if e.isDigit ∧ Digits.toNat [d, e] < groups then mention [d, e] ++ braced groups behind
        else mention [d] ++ braced groups (e :: behind)
      | [] => mention [d]
    else '$' :: '$' :: braced groups (d :: rest)
  | c :: rest => if c = '$' then '$' :: '$' :: braced groups rest else c :: braced groups rest
termination_by text => text.length

theorem braced_nil (groups : Nat) : braced groups [] = [] := by
  rw [braced]

/-- How a group is mentioned. -/
inductive Mention
  | number (index : Nat)
  | name (name : String)
  deriving DecidableEq, Repr

/-- Reads a mention: an index if it is one, else a name. -/
def Mention.ofText (text : Text) : Mention :=
  match Digits.index? text with
  | some index => .number index
  | none => .name (String.ofList text)

/-- Whether a character may be part of a mention without braces. -/
def isNameChar (c : Char) : Bool := c.isAlphanum || c == '_'

/-- The replacement with the texts of groups in place of their mentions. -/
def expand (group : Mention → Text) : Text → Text
  | [] => []
  | '$' :: '$' :: rest => '$' :: expand group rest
  | '$' :: '\x7b' :: rest =>
    match h : Text.cutAt? '\x7d' rest with
    | some (name, behind) =>
      have := Text.length_lt_of_cutAt? h
      group (.ofText name) ++ expand group behind
    | none => '$' :: '\x7b' :: expand group rest
  | '$' :: c :: rest =>
    if isNameChar c then
      have : (rest.dropWhile isNameChar).length ≤ rest.length :=
        (List.dropWhile_sublist isNameChar).length_le
      group (.ofText (c :: rest.takeWhile isNameChar)) ++ expand group (rest.dropWhile isNameChar)
    else '$' :: expand group (c :: rest)
  | c :: rest => c :: expand group rest
termination_by text => text.length

theorem expand_nil (group : Mention → Text) : expand group [] = [] := by
  rw [expand]

end Replacement

end CharacterSheet
