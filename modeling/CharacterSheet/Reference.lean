import CharacterSheet.RuleBook
import CharacterSheet.Scope
import CharacterSheet.Trait.ScarStat
import CharacterSheet.Value.Layer

/-!
# References

A reference names a value: a scar stat, a base attribute, rule data under `json.`, a path in the
entity, the variables or the character, or a short name. Paths in the character are layered over the
rule record of the same category and key.
-/

namespace CharacterSheet

/-- The scar of a key: the character's record layered over its rule record. -/
def findScar? (character : Value) (book : RuleBook) (key : String) : Option Value :=
  let own? := match character.field? "scars" with
    | some (.array items) => Value.findByKey? key items
    | some (.object fields) => Fields.get? key fields
    | _ => none
  match book.record? "scars" key, own? with
  | some rule, some own => some (Value.beneath rule own)
  | rule?, none => rule?
  | none, own? => own?

/-- The scar type of an entity: its own, or that of the scar it is entangled with. -/
def scarTypeOf (entity character : Value) (book : RuleBook) : Except Untyped ScarType :=
  match ScarType.ofRecord? entity with
  | some type => .ok type
  | none =>
    match entity.textField? "entangledScar" with
    | none => .error .noLink
    | some key =>
      match findScar? character book key with
      | none => .error (.noScar key)
      | some scar =>
        match ScarType.ofRecord? scar with
        | some type => .ok type
        | none => .error (.noType key)

namespace Reference

/-- The record of a scar stat for the entity in scope. -/
def scarStat (book : RuleBook) (scope : Scope) (reference : String) (stat : ScarStat) :
    Except Fault Value :=
  match scope.entity? with
  | none => .error (.unresolved reference .noStatEntity)
  | some entity =>
    match scarTypeOf entity scope.character book with
    | .error cause => .error (.unresolved reference (.untyped cause))
    | .ok type =>
      let trait := (stat.attributeFor type).name
      match attributeBase? scope.character trait with
      | none => .error (.unresolved reference (.noAttribute trait))
      | some base => .ok (ratedRecord stat.key stat.label trait base)

/-- The record of the base rating of an attribute. -/
def baseAttribute (scope : Scope) (reference : String) (trait : BaseAttribute) :
    Except Fault Value :=
  match attributeBase? scope.character trait.name with
  | none => .error (.unresolved reference (.noAttribute trait.name))
  | some base => .ok (ratedRecord trait.name trait.label trait.name base)

/-- Rule data: all of a category, or what is at a path in it. -/
def ruleData (book : RuleBook) (reference : String) (rest : Text) : Except Fault Value := do
  let found? ← match Text.cutAt? '.' rest with
    | some (category, path) => do
      let path ← Path.read reference path
      pure (book.at? (String.ofList category) path)
    | none => pure (book.data? (String.ofList rest))
  match found? with
  | some value => pure value
  | none => throw (.unresolved reference (.noRuleData (String.ofList rest)))

/-- The value with the key it was found under, if it is a record without one. -/
def withKey (key : String) : Value → Value
  | .object fields =>
    if Fields.contains "key" fields then .object fields
    else .object (Fields.insert "key" (.string key) fields)
  | value => value

/-- Layers the rule record of a path's category and key beneath the value found there. -/
def overRules (book : RuleBook) (path : Path) (value : Value) : Value :=
  match path with
  | category :: second :: rest =>
    let key := (second :: rest).getLast (by simp)
    let rule? := if RuleBook.isKnown category then book.record? category key else none
    match value, rule? with
    | .null, _ => .null
    | .number n, some rule => withKey key (Value.ratedBeneath rule (.number n))
    | .object fields, some rule => withKey key (Value.beneath rule (.object fields))
    | value, _ => withKey key value
  | _ => value

/-- The value at a path in the character, layered over rule data. -/
def characterPath (book : RuleBook) (scope : Scope) (reference : String) (text : Text) :
    Except Fault Value := do
  let path ← Path.read reference text
  let value ← scope.character.follow reference path
  pure (overRules book path value)

/-- The value at a path in a part of the scope that may be missing. -/
def scopedPath (part? : Option Value) (missing : Unresolved) (reference : String) (text : Text) :
    Except Fault Value :=
  match part? with
  | none => .error (.unresolved reference missing)
  | some part => do
    let path ← Path.read reference text
    part.follow reference path

/-- A reference to a short name or to a path in the character. -/
def plain (book : RuleBook) (scope : Scope) (text : Text) : Except Fault Value :=
  match shorthandPath? text with
  | some path => characterPath book scope (String.ofList path) path
  | none => characterPath book scope (String.ofList text) text

/-- A reference that starts with a scope, or names one. -/
def prefixed (book : RuleBook) (scope : Scope) (text : Text) : Except Fault Value :=
  let reference := String.ofList text
  match Text.after? "json.".toList text with
  | some rest => ruleData book reference rest
  | none =>
    match Text.after? "this.".toList text with
    | some rest => scopedPath scope.entity? .noEntity reference rest
    | none =>
      match Text.after? "vars.".toList text with
      | some rest => scopedPath scope.vars? .noVars reference rest
      | none =>
        match Text.after? "context.".toList text with
        | some rest => characterPath book scope reference rest
        | none =>
          if reference = "this" then
            match scope.entity? with
            | some entity => .ok entity
            | none => .error (.unresolved reference .noEntity)
          else plain book scope text

/-- The value of a reference. Scar stats come first, then base attributes, then scoped paths. -/
def resolve (book : RuleBook) (scope : Scope) (text : Text) : Except Fault Value :=
  let text := Text.trim text
  let reference := String.ofList text
  if text.isEmpty then .error (.unresolved reference .emptyReference)
  else
    match ScarStat.ofReference? reference with
    | some stat => scarStat book scope reference stat
    | none =>
      match BaseAttribute.ofBaseReference? text with
      | some trait => baseAttribute scope reference trait
      | none => prefixed book scope text

end Reference

end CharacterSheet
