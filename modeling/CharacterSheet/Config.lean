import CharacterSheet.Value.Basic

/-!
# Configuration

The settings of a renderer. They are read from an object with named fields, where missing fields
keep their default and unknown ones are ignored, or from an array of the fields in order.
-/

namespace CharacterSheet

/-- The settings of a renderer. -/
structure Config where
  /-- Whether a fault stops the rendering of a sheet even when it could be shown in place. -/
  strict : Bool := true
  /-- Whether tooltips stay placeholders in the output. -/
  preservePlaceholders : Bool := false
  /-- Whether every registered tooltip is reported. -/
  debugTooltips : Bool := false
  /-- The seed of identifiers; without one they are drawn at random. -/
  placeholderSeed? : Option UInt64 := none
  /-- How many spans one outermost rendering may evaluate. -/
  maxExpansions : Nat := 10000
  /-- The longest row of dots. -/
  maxDots : Nat := 20
  /-- Whether dashes and minus signs are typeset. -/
  typography : Bool := true
  deriving DecidableEq, Repr

namespace Config

/-- The settings with a limit of at least one span. -/
def withMaxExpansions (config : Config) (most : Nat) : Config :=
  { config with maxExpansions := max most 1 }

/-- The settings with a limit of at least one dot. -/
def withMaxDots (config : Config) (most : Nat) : Config := { config with maxDots := max most 1 }

/-- A truth value. -/
def boolean? : Value → Option Bool
  | .boolean b => some b
  | _ => none

/-- A count: a whole number that is not negative. -/
def count? : Value → Option Nat
  | .number (.integer n _ _) => if 0 ≤ n then some n.toNat else none
  | _ => none

/-- A seed, or null for none. -/
def seed? : Value → Option (Option UInt64)
  | .null => some none
  | value => (count? value).map fun n => some n.toUInt64

/-- Sets the field of a name to a value; a field that the settings do not have changes nothing. -/
def set? (config : Config) (field : String) (value : Value) : Option Config :=
  match field with
  | "strict" => (boolean? value).map fun b => { config with strict := b }
  | "preservePlaceholders" =>
    (boolean? value).map fun b => { config with preservePlaceholders := b }
  | "debugTooltips" => (boolean? value).map fun b => { config with debugTooltips := b }
  | "placeholderSeed" => (seed? value).map fun seed => { config with placeholderSeed? := seed }
  | "maxExpansions" => (count? value).map fun n => { config with maxExpansions := n }
  | "maxDots" => (count? value).map fun n => { config with maxDots := n }
  | "typography" => (boolean? value).map fun b => { config with typography := b }
  | _ => some config

/-- The fields in the order of the array form. -/
def fieldOrder : List String :=
  ["strict", "preservePlaceholders", "debugTooltips", "placeholderSeed", "maxExpansions", "maxDots",
    "typography"]

/-- Reads settings over the defaults. -/
def ofValue? : Value → Option Config
  | .object fields => fields.foldlM (fun config (field, value) => config.set? field value) {}
  | .array items =>
    if fieldOrder.length < items.length then none
    else (fieldOrder.zip items).foldlM (fun config (field, value) => config.set? field value) {}
  | _ => none

/-- One builder step: the limits stay above zero, everything else is set as given. -/
def build? (config : Config) (field : String) (value : Value) : Option Config :=
  match field with
  | "maxExpansions" => (count? value).map config.withMaxExpansions
  | "maxDots" => (count? value).map config.withMaxDots
  | _ => config.set? field value

end Config

end CharacterSheet
