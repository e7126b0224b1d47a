import CharacterSheet.Text.Case

/-!
# Characters that differ in case only

Mostly such characters come in pairs that are each other's lower and upper case. The groups listed
here are larger, or have a member without a case mapping of one character.
-/

namespace CharacterSheet

/-- The groups that the case mappings alone do not give. -/
def caseGroups : List (List Nat) := [
  [0x004B, 0x006B, 0x212A], [0x0053, 0x0073, 0x017F], [0x00B5, 0x039C, 0x03BC],
  [0x00C5, 0x00E5, 0x212B], [0x00DF, 0x1E9E], [0x01C4, 0x01C5, 0x01C6],
  [0x01C7, 0x01C8, 0x01C9], [0x01CA, 0x01CB, 0x01CC], [0x01F1, 0x01F2, 0x01F3],
  [0x0345, 0x0399, 0x03B9, 0x1FBE], [0x0390, 0x1FD3], [0x0392, 0x03B2, 0x03D0],
  [0x0395, 0x03B5, 0x03F5], [0x0398, 0x03B8, 0x03D1, 0x03F4], [0x039A, 0x03BA, 0x03F0],
  [0x03A0, 0x03C0, 0x03D6], [0x03A1, 0x03C1, 0x03F1], [0x03A3, 0x03C2, 0x03C3],
  [0x03A6, 0x03C6, 0x03D5], [0x03A9, 0x03C9, 0x2126], [0x03B0, 0x1FE3],
  [0x0412, 0x0432, 0x1C80], [0x0414, 0x0434, 0x1C81], [0x041E, 0x043E, 0x1C82],
  [0x0421, 0x0441, 0x1C83], [0x0422, 0x0442, 0x1C84, 0x1C85], [0x042A, 0x044A, 0x1C86],
  [0x0462, 0x0463, 0x1C87], [0x1C88, 0xA64A, 0xA64B], [0x1E60, 0x1E61, 0x1E9B],
  [0x1F80, 0x1F88], [0x1F81, 0x1F89], [0x1F82, 0x1F8A],
  [0x1F83, 0x1F8B], [0x1F84, 0x1F8C], [0x1F85, 0x1F8D],
  [0x1F86, 0x1F8E], [0x1F87, 0x1F8F], [0x1F90, 0x1F98],
  [0x1F91, 0x1F99], [0x1F92, 0x1F9A], [0x1F93, 0x1F9B],
  [0x1F94, 0x1F9C], [0x1F95, 0x1F9D], [0x1F96, 0x1F9E],
  [0x1F97, 0x1F9F], [0x1FA0, 0x1FA8], [0x1FA1, 0x1FA9],
  [0x1FA2, 0x1FAA], [0x1FA3, 0x1FAB], [0x1FA4, 0x1FAC],
  [0x1FA5, 0x1FAD], [0x1FA6, 0x1FAE], [0x1FA7, 0x1FAF],
  [0x1FB3, 0x1FBC], [0x1FC3, 0x1FCC], [0x1FF3, 0x1FFC],
  [0xFB05, 0xFB06]]

/-- All characters that differ from the given one in case only, itself included. The dotless i has
no partner. -/
def caseVariants (c : Char) : List Char :=
  if c == '\u0131' then [c]
  else
    match caseGroups.find? fun group => group.contains c.toNat with
    | some group => group.map Char.ofNat
    | none => [c, lowerChar c, upperChar c]

end CharacterSheet
