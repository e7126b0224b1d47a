import CharacterSheet.Handler.Argument
import CharacterSheet.Value.Label

/-!
# Lists and options

`INLINELIST` shows the labels of a list in words. An entity may carry an `options` map; `OPTIONLIST`
shows several of its options as a list and `INLINEOPTION` shows one.
-/

namespace CharacterSheet

namespace Handler

/-- The elements of a value that can be listed. -/
def listed (name : String) (argument : Text) : Value → Except Fault (List Value)
  | .array items => .ok items
  | .object fields => .ok (fields.map Prod.snd)
  | .null => .ok []
  | value => .error (.misused name (.notList (String.ofList argument) value.kindName))

/-- An argument without its quotes, if it has some. -/
def unquoted (argument : Text) : Text := (Quoted.literal? argument).getD argument

/-- `INLINELIST:reference[,conjunction]`. -/
def inlineList : Handler where
  name := "INLINELIST"
  least := 1
  most? := some 2
  run setting scope content :=
    match Arguments.ofContent content with
    | argument :: rest => do
      let value ← Argument.value setting scope argument
      let items ← Script.ofExcept (listed "INLINELIST" argument value)
      let labels ← (items.filterMap Value.label?).mapM (Script.expanded scope)
      let conjunction := (rest.head?.map unquoted).getD "and".toList
      pure (Value.ofText (Text.enumerate conjunction labels))
    | arguments => throw (tooFew "INLINELIST" 1 (some 2) arguments)

/-- The options of the entity in scope. -/
def options (name : String) (scope : Scope) : Except Fault Fields :=
  match ((scope.entity?.bind (Value.field? "options")).bind Value.fields?) with
  | some fields => .ok fields
  | none => .error (.misused name .noOptions)

/-- The text of an option; an option that is null has none. -/
def optionText (name : String) (scope : Scope) (key : String) : Script (Option Text) := do
  let options ← Script.ofExcept (options name scope)
  match Fields.get? key options with
  | none => throw (Fault.misused name (.noOption key))
  | some .null => pure none
  | some (.string s) => some <$> Script.expanded scope s.toList
  | some value => pure (some value.shown)

/-- The key that an element of a list stands for. -/
def elementKey (item : Value) : String := String.ofList ((item.field? "key").getD item).shown

/-- The keys of options: named one by one, or held in one array that is referred to. -/
def optionKeys (setting : Setting) (scope : Scope) (content : Text) : List String :=
  let arguments := Arguments.ofContent content
  let named := arguments.map fun argument => String.ofList (unquoted argument)
  match arguments with
  | [single] =>
    if (Quoted.literal? single).isSome then named
    else
      match setting.resolve scope single with
      | .ok (.array items) => items.map elementKey
      | _ => named
  | _ => named

/-- `OPTIONLIST:key,...` or `OPTIONLIST:reference`. -/
def optionList : Handler where
  name := "OPTIONLIST"
  least := 1
  most? := none
  run setting scope content := do
    let texts ← (optionKeys setting scope content).mapM (optionText "OPTIONLIST" scope)
    let items := (texts.filterMap id).flatMap fun text => "<li>".toList ++ text ++ "</li>".toList
    if items.isEmpty then pure (Value.ofText [])
    else pure (Value.ofText ("<ul class='option-list'>".toList ++ items ++ "</ul>".toList))

/-- `INLINEOPTION:key`. -/
def inlineOption : Handler where
  name := "INLINEOPTION"
  least := 1
  most? := some 1
  run _ scope content := do
    let key := (Quoted.literal? content).getD (Text.trim content)
    let text? ← optionText "INLINEOPTION" scope (String.ofList key)
    pure (Value.ofText (text?.getD []))

end Handler

end CharacterSheet
