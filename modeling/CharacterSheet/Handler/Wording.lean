import CharacterSheet.Citation
import CharacterSheet.Handler.Argument
import CharacterSheet.Text.Case
import CharacterSheet.Value.Label

/-!
# Words and text

`NAME` is the name of the character and `BR` a line break. `LOWER` and `UPPER` change letter case,
`REF` shows a value as text and `SOURCE` cites a book.
-/

namespace CharacterSheet

namespace Handler

/-- `NAME`. -/
def characterName : Handler where
  name := "NAME"
  least := 0
  most? := some 0
  run _ scope _ :=
    match scope.character.textField? "name" with
    | some name => pure (.string name)
    | none => throw (Fault.unresolved "name" .nameless)

/-- `BR`. -/
def lineBreak : Handler where
  name := "BR"
  least := 0
  most? := some 0
  run _ _ _ := pure (.string "<br>")

/-- A handler that changes its text. -/
def rewording (name : String) (change : Text → Text) : Handler where
  name := name
  least := 1
  most? := none
  run _ scope content := (Value.ofText ∘ change) <$> Argument.text scope content

/-- `LOWER:text`. -/
def lower : Handler := rewording "LOWER" Text.lower

/-- `UPPER:text`. -/
def upper : Handler := rewording "UPPER" Text.upper

/-- `REF:reference`. -/
def ref : Handler where
  name := "REF"
  least := 1
  most? := some 1
  run setting scope content := do
    let value ← Script.ofExcept (setting.resolve scope content)
    pure (Value.ofText value.shown)

/-- `SOURCE:BOOK/page` or `SOURCE:reference`. -/
def source : Handler where
  name := "SOURCE"
  least := 1
  most? := some 1
  run setting scope content := do
    let text := Text.trim content
    let value ←
      if text.any (· == '/') then pure (Value.ofText text)
      else Script.ofExcept (setting.resolve scope text)
    match Citation.ofValue? value with
    | some citation => Value.ofText <$> Script.ofExcept citation.markup
    | none => throw (Fault.misused "SOURCE" (.noCitation (String.ofList text)))

end Handler

end CharacterSheet
