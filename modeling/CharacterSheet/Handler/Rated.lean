import CharacterSheet.Handler.Arithmetic
import CharacterSheet.Trait.Dotline
import CharacterSheet.Value.Label

/-!
# Ratings in text

`VALUE` shows a rating, `NAMEVALUE` a name with its rating, `SIGNED` a signed number and `DOTS` a
row of dots.
-/

namespace CharacterSheet

namespace Handler

/-- The flags of `VALUE`. -/
structure ValueFlags where
  preferBase : Bool := false
  signed : Bool := false
  default? : Option Text := none
  deriving DecidableEq, Repr

namespace ValueFlags

/-- Adds one flag: one of the two words in any letter case, or the default if there is none yet. -/
def add (flags : ValueFlags) (flag : Text) : Except Fault ValueFlags :=
  let lower := String.ofList (flag.map Char.toLower)
  match lower with
  | "base" => .ok { flags with preferBase := true }
  | "signed" => .ok { flags with signed := true }
  | _ =>
    match flags.default? with
    | none => .ok { flags with default? := some flag }
    | some _ => .error (.misused "VALUE" (.unexpectedArgument lower))

/-- An amount as the flags want it. -/
def amountText (flags : ValueFlags) (x : Float) : Text :=
  if flags.signed then Amount.signedText x else Amount.text x

end ValueFlags

/-- The rating of an argument; with a default it may also refer to nothing. -/
def ratingArgument (setting : Setting) (scope : Scope) (flags : ValueFlags) (argument : Text) :
    Script (Option Float) :=
  let rating := (Value.rating? flags.preferBase) <$> Argument.value setting scope argument
  if flags.default?.isSome then rating.orIfUnresolved none else rating

/-- `VALUE:reference[,base][,signed][,default]`. -/
def value : Handler where
  name := "VALUE"
  least := 1
  most? := some 4
  run setting scope content :=
    match Arguments.ofContent content with
    | argument :: rest => do
      let flags ← Script.ofExcept (rest.foldlM ValueFlags.add {})
      let rating? ← ratingArgument setting scope flags argument
      match rating?, flags.default? with
      | some x, _ => pure (Value.ofText (flags.amountText x))
      | none, some fallback =>
        match Text.number? (Text.plainMinus fallback) with
        | some x => pure (Value.ofText (flags.amountText x))
        | none => pure (Value.ofText fallback)
      | none, none => throw (Fault.misused "VALUE" (.noNumberAt (String.ofList argument)))
    | arguments => throw (tooFew "VALUE" 1 (some 4) arguments)

/-- The names of bare ratings that carry none of their own. -/
def statNames : List (String × String) :=
  [("health", "Health"), ("willpower", "Willpower"), ("speed", "Speed"), ("defense", "Defense"),
    ("initiative", "Initiative"), ("size", "Size"), ("armor", "Armor"),
    ("integrity", "Integrity"), ("conviction", "Conviction"), ("loyalty", "Loyalty")]

/-- The name of a bare rating by its key, in any letter case. -/
def statName? (key : Text) : Option String :=
  (statNames.find? fun (stat, _) => Text.sameIgnoringCase stat.toList key).map Prod.snd

/-- The last segment of a reference. -/
def lastSegment (reference : Text) : Text :=
  ((Text.split '.' (Text.trim reference)).getLast?).getD []

/-- The name that is shown for a value that was referred to. -/
def shownName? (value : Value) (reference : Text) : Option String :=
  let key := ((value.textField? "key").map String.toList).getD (lastSegment reference)
  (value.textField? "display").or ((value.textField? "name").or (statName? key))

/-- The two ratings of armor, if a value has both. -/
def armorRatings? (value : Value) : Option (Float × Float) := do
  let general ← (value.field? "general").bind (Value.rating? false)
  let ballistic ← (value.field? "ballistic").bind (Value.rating? false)
  pure (general, ballistic)

/-- A name with a rating in parentheses. -/
def nameMarkup (name : String) (rating : Text) : Text :=
  "<strong>".toList ++ name.toList ++ " (".toList ++ rating ++ ")</strong>".toList

/-- `NAMEVALUE:reference`. -/
def nameValue : Handler where
  name := "NAMEVALUE"
  least := 1
  most? := some 1
  run setting scope content := do
    let value ← Argument.value setting scope content
    let shownContent := String.ofList (Text.trim content)
    match armorRatings? value with
    | some (general, ballistic) =>
      let name := (shownName? value content).getD "Armor"
      let rating := Amount.text general ++ ['/'] ++ Amount.text ballistic
      pure (Value.ofText (nameMarkup name rating))
    | none =>
      match shownName? value content with
      | none => throw (Fault.misused "NAMEVALUE" (.noDisplayName shownContent))
      | some name =>
        match value.rating? false with
        | none => throw (Fault.misused "NAMEVALUE" (.noNumberFor shownContent))
        | some x => pure (Value.ofText (nameMarkup name (Amount.signedText x)))

/-- `SIGNED:expression`. -/
def signed : Handler where
  name := "SIGNED"
  least := 1
  most? := some 1
  run setting scope content := do
    let x ← arithmetic setting scope content
    pure (Value.ofText (Amount.signedText x))

/-- `DOTS:reference[,max]`. -/
def dots : Handler where
  name := "DOTS"
  least := 1
  most? := some 2
  run setting scope content :=
    match Arguments.ofContent content with
    | argument :: rest => do
      let value ← Argument.value setting scope argument
      let most? ← match rest.head? with
        | some most => (some ∘ Rounding.toWord) <$> Argument.number setting scope "DOTS" most
        | none => pure none
      let rating := (DotRating.ofValue value most?).capped setting.config.maxDots
      pure (Value.ofText (Dot.rowMarkup rating.dots))
    | arguments => throw (tooFew "DOTS" 1 (some 2) arguments)

end Handler

end CharacterSheet
