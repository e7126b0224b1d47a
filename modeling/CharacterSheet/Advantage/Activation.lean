import CharacterSheet.Fault
import CharacterSheet.Text.Blank
import CharacterSheet.Value.Printer

/-!
# Activations of scars

A scar says how it is activated, in one word or in a list of words.
-/

namespace CharacterSheet

/-- How a scar is activated. -/
inductive Activation
  | controlled
  | involuntary
  | persistent
  deriving DecidableEq, Repr

namespace Activation

/-- The word for it. -/
def name : Activation → String
  | .controlled => "controlled"
  | .involuntary => "involuntary"
  | .persistent => "persistent"

/-- The word as it is shown. -/
def label : Activation → String
  | .controlled => "Controlled"
  | .involuntary => "Involuntary"
  | .persistent => "Persistent"

/-- The activation that a text names, in any letter case. -/
def ofText? (text : Text) : Option Activation :=
  match String.ofList ((Text.trim text).map Char.toLower) with
  | "controlled" => some .controlled
  | "involuntary" => some .involuntary
  | "persistent" => some .persistent
  | _ => none

/-- The markup of a badge. -/
def badge (activation : Activation) : String :=
  s!"<span class='badge badge-{activation.name}'>{activation.label}</span>"

/-- The activation of the scar with the key that a value names. -/
def ofValue (key : String) (value : Value) : Except Fault Activation :=
  match value.string?.bind fun s => ofText? s.toList with
  | some activation => .ok activation
  | none => .error (.ruleData (.badActivation key value.compact))

/-- The activations in a field that may be missing or null, or hold one value or an array. -/
def ofField (key : String) : Option Value → Except Fault (List Activation)
  | none | some .null => .ok []
  | some (.array items) => items.mapM (ofValue key)
  | some value => [value].mapM (ofValue key)

end Activation

end CharacterSheet
