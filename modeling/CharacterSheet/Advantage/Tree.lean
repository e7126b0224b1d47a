import CharacterSheet.Advantage.Processing

/-!
# Merits and the advantages they grant

A processed merit may grant further merits and variations, and these may grant others in turn. They
wait in a queue: the merits of the character first, and behind them what each grants when it is
processed. An advantage may not be granted, directly or not, by itself. So on every path the keys
are apart, and as keys are texts of the data, no path is longer than twice the number of such texts.
-/

namespace CharacterSheet

namespace Value

mutual

/-- How many texts a value holds. -/
def textCount : Value → Nat
  | .string _ => 1
  | .array items => itemsTextCount items
  | .object fields => fieldsTextCount fields
  | _ => 0

/-- How many texts the elements hold. -/
def itemsTextCount : List Value → Nat
  | [] => 0
  | item :: items => textCount item + itemsTextCount items

/-- How many texts the fields hold. -/
def fieldsTextCount : List (String × Value) → Nat
  | [] => 0
  | (_, value) :: fields => textCount value + fieldsTextCount fields

end

end Value

/-- An advantage that waits to be processed. -/
structure AdvantageNode where
  kind : AdvantageKind
  key : String
  input : Value
  /-- The kinds and keys of what granted it, the nearest first. -/
  ancestors : List (AdvantageKind × String) := []

namespace AdvantageNode

/-- The kind and the key. -/
def label (node : AdvantageNode) : AdvantageKind × String := (node.kind, node.key)

/-- A merit of the character. It has to have a key. -/
def ofMerit (merit : Value) : Except Fault AdvantageNode :=
  match merit.textField? "key" with
  | some key => .ok { kind := .merit, key, input := merit }
  | none => .error (.ruleData (.noKey .merit merit.compact))

/-- The fields that grant advantages, and what they grant. -/
def grantFields : List (String × AdvantageKind) :=
  [("secondaryMerits", .merit), ("secondaryVariations", .variation)]

/-- The record of a granted advantage: a bare text is a key. -/
def grantedInput? (parent : String) : Value → Option Value
  | .string key => some (Value.ofFields [("key", .string key), ("parentKey", .string parent)])
  | .object fields => some (.object (Fields.insert "parentKey" (.string parent) fields))
  | _ => none

/-- The node of an entry in one of the fields that grant advantages. -/
def granted (node : AdvantageNode) (field : String) (kind : AdvantageKind) (entry : Value) :
    Except Fault AdvantageNode :=
  match grantedInput? node.key entry with
  | none => .error (.ruleData (.badSecondary field node.key entry.compact))
  | some input =>
    match input.textField? "key" with
    | none => .error (.ruleData (.noSecondaryKey field node.key))
    | some key => .ok { kind, key, input, ancestors := node.label :: node.ancestors }

/-- The nodes of all entries in one field. -/
def grantedIn (node : AdvantageNode) (fields : Fields) (field : String) (kind : AdvantageKind) :
    Except Fault (List AdvantageNode) :=
  match Fields.get? field fields with
  | some (.array entries) => entries.mapM (node.granted field kind)
  | _ => .ok []

/-- The nodes of everything that a processed advantage grants. -/
def children (node : AdvantageNode) (fields : Fields) : Except Fault (List AdvantageNode) := do
  let granted ← grantFields.mapM fun (field, kind) => node.grantedIn fields field kind
  pure granted.flatten

/-- The fields with the keys of the children, if there are any. -/
def withChildKeys (children : List AdvantageNode) (fields : Fields) : Fields :=
  if children.isEmpty then fields
  else
    Fields.insert "secondaryKeys" (.array (children.map fun child => .string child.key)) fields

/-- The fault of an advantage that is granted by itself. -/
def cycle (node : AdvantageNode) : Fault := .ruleData (.ownSecondary node.kind node.key)

/-- Processes a node and finds its children. -/
def process (engine : Engine) (scope : Scope) (node : AdvantageNode) :
    Action (Fields × List AdvantageNode) := do
  if node.ancestors.contains node.label then throw node.cycle
  let fields ← Advantage.process node.kind engine scope node.input
  let children ← ExceptT.mk (pure (node.children fields))
  pure (withChildKeys children fields, children)

/-- Takes nodes from the front of a queue and puts what each of them grants at its back. When the
front is empty `goOn` gets the back. Gives the kinds and fields in the order in which nodes are
taken. -/
def processFront (engine : Engine) (scope : Scope)
    (goOn : List AdvantageNode → Action (List (AdvantageKind × Fields))) :
    (front back : List AdvantageNode) → Action (List (AdvantageKind × Fields))
  | [], back => goOn back
  | node :: front, back => do
    let (fields, children) ← node.process engine scope
    let others ← processFront engine scope goOn front (back ++ children)
    pure ((node.kind, fields) :: others)

/-- Processes a queue of nodes until it is empty. The fuel is how often the back of the queue may
become its front, which it does once for each step away from the roots. -/
def processQueue (engine : Engine) (scope : Scope) :
    (fuel : Nat) → (queue : List AdvantageNode) → Action (List (AdvantageKind × Fields))
  | _, [] => pure []
  | 0, node :: _ => throw node.cycle
  | fuel + 1, node :: queue =>
    processFront engine scope (processQueue engine scope fuel) (node :: queue) []

end AdvantageNode

/-- Processed merits, and the variations that they granted. -/
structure MeritTree where
  merits : List Value
  variations : List Value

namespace MeritTree

/-- More nodes than any path without a repetition can have. -/
def longestPath (rules : RuleBook) (merits : List Value) : Nat :=
  2 * (Value.itemsTextCount merits + Value.fieldsTextCount rules.categories) + 1

/-- The processed advantages of a kind. -/
def ofKind (kind : AdvantageKind) (processed : List (AdvantageKind × Fields)) : List Value :=
  (processed.filter fun entry => entry.1 == kind).map fun entry => .object entry.2

/-- Processes merits and everything that they grant. -/
def process (engine : Engine) (scope : Scope) (merits : List Value) : Action MeritTree := do
  let nodes ← ExceptT.mk (pure (merits.mapM AdvantageNode.ofMerit))
  let bound := longestPath engine.rules merits
  let processed ← AdvantageNode.processQueue engine scope bound nodes
  pure ⟨ofKind .merit processed, ofKind .variation processed⟩

end MeritTree

end CharacterSheet
