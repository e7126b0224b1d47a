import CharacterSheet.Handler.Builtin
import CharacterSheet.Pattern.Linear
import CharacterSheet.Sheet
import CharacterSheet.Value.Parser

/-!
# The command line

The command renders one template for one character. Its arguments are read from left to right, and
the first mistake ends the reading. Files are given as a look-up, so that a run depends on nothing
else.
-/

namespace CharacterSheet

/-- What a run of the command is asked to do. -/
structure CommandLine where
  character : String
  template : String
  dataDirectory : String := "data"
  config? : Option String := none
  lenient : Bool := false
  seed? : Option UInt64 := none
  verbose : Bool := false
  deriving DecidableEq, Repr

namespace CommandLine

/-- Why arguments ask for no run. -/
inductive Refusal
  /-- They ask for help or for the version. -/
  | help
  | version
  /-- They are not understood. -/
  | usage
  deriving DecidableEq, Repr

/-- An option that takes a value. -/
inductive ValueOption
  | dataDirectory
  | config
  | seed
  deriving DecidableEq, Repr

/-- An option that takes none. -/
inductive SwitchOption
  | lenient
  | verbose
  | help
  | version
  deriving DecidableEq, Repr

/-- The option with a value of a long name. -/
def valueOption? : String → Option ValueOption
  | "data-dir" => some .dataDirectory
  | "config" => some .config
  | "seed" => some .seed
  | _ => none

/-- The option without a value of a long name. -/
def switchOption? : String → Option SwitchOption
  | "lenient" => some .lenient
  | "verbose" => some .verbose
  | "help" => some .help
  | "version" => some .version
  | _ => none

/-- The option without a value of a letter. -/
def switchLetter? : Char → Option SwitchOption
  | 'v' => some .verbose
  | 'h' => some .help
  | 'V' => some .version
  | _ => none

/-- What was read so far. -/
structure Draft where
  operands : List String := []
  dataDirectory? : Option String := none
  config? : Option String := none
  seed? : Option UInt64 := none
  lenient : Bool := false
  verbose : Bool := false
  deriving DecidableEq, Repr

namespace Draft

/-- Sets an option to a value. It may be set once, and a path is not empty. -/
def setValue (draft : Draft) (value : String) : ValueOption → Except Refusal Draft
  | .dataDirectory =>
    if value = "" ∨ draft.dataDirectory?.isSome then .error .usage
    else .ok { draft with dataDirectory? := some value }
  | .config =>
    if value = "" ∨ draft.config?.isSome then .error .usage
    else .ok { draft with config? := some value }
  | .seed =>
    match draft.seed?, Digits.index? value.toList with
    | none, some seed => .ok { draft with seed? := some seed.toUInt64 }
    | _, _ => .error .usage

/-- Sets an option without a value. It may be set once. -/
def setSwitch (draft : Draft) : SwitchOption → Except Refusal Draft
  | .lenient => if draft.lenient then .error .usage else .ok { draft with lenient := true }
  | .verbose => if draft.verbose then .error .usage else .ok { draft with verbose := true }
  | .help => .error .help
  | .version => .error .version

/-- Adds an operand: a path, so not empty. There are two. -/
def addOperand (draft : Draft) (operand : String) : Except Refusal Draft :=
  if operand = "" ∨ 2 ≤ draft.operands.length then .error .usage
  else .ok { draft with operands := draft.operands ++ [operand] }

/-- Sets the options of letters. -/
def setLetters (draft : Draft) (letters : Text) : Except Refusal Draft :=
  letters.foldlM
    (fun draft c =>
      match switchLetter? c with
      | some option => draft.setSwitch option
      | none => .error .usage)
    draft

/-- The run that was asked for. Both operands have to be there. -/
def finish (draft : Draft) : Except Refusal CommandLine :=
  match draft.operands with
  | [character, template] =>
    .ok
      { character, template
        dataDirectory := draft.dataDirectory?.getD "data"
        config? := draft.config?
        lenient := draft.lenient
        seed? := draft.seed?
        verbose := draft.verbose }
  | _ => .error .usage

end Draft

/-- Reads arguments. An option may wait for its value, and after two hyphens all are operands. -/
def readFrom (draft : Draft) (waiting? : Option ValueOption) (operandsOnly : Bool) :
    List String → Except Refusal CommandLine
  | [] => if waiting?.isSome then .error .usage else draft.finish
  | argument :: rest =>
    match waiting?, operandsOnly, argument.toList with
    | none, true, _ => do
      let draft ← draft.addOperand argument
      readFrom draft none true rest
    | some _, _, '-' :: _ :: _ => .error .usage
    | some option, _, _ => do
      let draft ← draft.setValue argument option
      readFrom draft none operandsOnly rest
    | none, false, ['-', '-'] => readFrom draft none true rest
    | none, false, '-' :: '-' :: long =>
      match Text.cutAt? '=' long with
      | some (name, value) =>
        match valueOption? (String.ofList name) with
        | some option => do
          let draft ← draft.setValue (String.ofList value) option
          readFrom draft none false rest
        | none => .error .usage
      | none =>
        let name := String.ofList long
        match valueOption? name, switchOption? name with
        | some option, _ => readFrom draft (some option) false rest
        | none, some option => do
          let draft ← draft.setSwitch option
          readFrom draft none false rest
        | none, none => .error .usage
    | none, false, '-' :: c :: letters => do
      let draft ← draft.setLetters (c :: letters)
      readFrom draft none false rest
    | none, false, _ => do
      let draft ← draft.addOperand argument
      readFrom draft none false rest

/-- Reads the arguments of the command. -/
def read (arguments : List String) : Except Refusal CommandLine := readFrom {} none false arguments

/-- What stops a run. -/
inductive Failure
  | unreadable (what path : String)
  | invalid (what path : String)
  | fault (cause : Fault)
  deriving DecidableEq, Repr

namespace Failure

/-- The wording of a failure. -/
def message : Failure → String
  | .unreadable what path => s!"cannot read {what} {path}"
  | .invalid what path => s!"invalid {what} {path}"
  | .fault cause => cause.message

end Failure

/-- Reads the value in a file. -/
def readValue (read? : String → Option Text) (what path : String) : Except Failure Value :=
  match read? path with
  | none => .error (.unreadable what path)
  | some text =>
    match Value.parse? text with
    | some value => .ok value
    | none => .error (.invalid what path)

/-- The settings of a run: those of the configuration file, with what the options say. -/
def readConfig (commandLine : CommandLine) (read? : String → Option Text) :
    Except Failure Config := do
  let config ← match commandLine.config? with
    | none => pure {}
    | some path =>
      let value ← readValue read? "config" path
      match Config.ofValue? value with
      | some config => pure config
      | none => throw (.invalid "config" path)
  let config := if commandLine.lenient then { config with strict := false } else config
  match commandLine.seed? with
  | some seed => pure { config with placeholderSeed? := some seed }
  | none => pure config

/-- The path of a rule data file. -/
def dataPath (commandLine : CommandLine) (file : String) : String :=
  s!"{commandLine.dataDirectory}/{file}"

/-- Every file that a run may read. -/
def paths (commandLine : CommandLine) : List String :=
  commandLine.config?.toList ++ [commandLine.character, commandLine.template] ++
    RuleBook.files.map fun (_, file) => commandLine.dataPath file

/-- Renders the template. `words` gives the source of identifiers for the seed of the settings. -/
def run (commandLine : CommandLine) (read? : String → Option Text)
    (words : Option UInt64 → WordSource) : Except Failure Text := do
  let config ← commandLine.readConfig read?
  let character ← readValue read? "character" commandLine.character
  let template ← match read? commandLine.template with
    | some text => pure text
    | none => throw (.unreadable "template" commandLine.template)
  let rules := RuleBook.ofFiles fun file => read? (commandLine.dataPath file)
  let engine : Engine :=
    { config, registry := .builtin, rules, patterns := .linear,
      words := words config.placeholderSeed? }
  let sheet : Sheet := ⟨character, engine⟩
  match (sheet.render template (some ⟨commandLine.template, 1⟩) {}).1 with
  | .ok html => pure html
  | .error fault => throw (.fault fault)

end CommandLine

end CharacterSheet
