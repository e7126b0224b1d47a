import CharacterSheet.Handler.Basic
import CharacterSheet.Markup.Escape
import CharacterSheet.Markup.Nesting
import CharacterSheet.Markup.Typography
import CharacterSheet.Notation.Arguments
import CharacterSheet.Notation.Operation
import CharacterSheet.Pattern.Library
import CharacterSheet.Rendering.Diagnostic
import CharacterSheet.Rendering.Origins
import CharacterSheet.Rendering.Placeholders
import CharacterSheet.Value.Label

/-!
# The renderer

A renderer expands the spans of a text from left to right: each is replaced by what its operation
gives, and the replacement is looked through for spans again. An outermost rendering then puts
tooltips in place, typesets the document and checks its tags; a rendering inside another one only
expands.

The journal is what lasts between calls. One counter of expansions is shared by all levels of
nesting; it bounds every run, and it is also why `unfold` ends: its fuel is what the counter leaves.
-/

namespace CharacterSheet

/-- What a renderer is made of. -/
structure Engine where
  config : Config
  registry : Registry
  rules : RuleBook
  /-- What compiles the patterns of the rules. -/
  patterns : PatternLibrary
  words : WordSource

/-- What a renderer remembers. -/
structure Journal where
  placeholders : Placeholders := {}
  /-- How many expansions are under way. -/
  depth : Nat := 0
  /-- How many spans were evaluated since the last outermost rendering began. -/
  expansions : Nat := 0
  diagnostics : Array Diagnostic := #[]

/-- A step of a renderer. The journal is kept also when the step fails. -/
abbrev Action (α : Type) := ExceptT Fault (StateM Journal) α

namespace Action

variable {α : Type}

/-- The outcome of a step, a failure included. -/
def outcome (action : Action α) : Action (Except Fault α) :=
  ExceptT.mk fun journal =>
    let (result, journal) := action.run journal
    (.ok result, journal)

/-- Runs a step one level deeper. The level is left again however the step ends. -/
def nested (action : Action α) : Action α :=
  ExceptT.mk fun journal =>
    let (result, journal) := action.run { journal with depth := journal.depth + 1 }
    (result, { journal with depth := journal.depth - 1 })

/-- Reports an event. -/
def report (diagnostic : Diagnostic) : Action Unit :=
  modify fun journal => { journal with diagnostics := journal.diagnostics.push diagnostic }

end Action

/-- How the requests of a script are answered. -/
structure Answers where
  expand : Scope → Text → Action Text
  render : Scope → Text → Action Text
  draw : Action String
  tooltip : (html source : Text) → Action Text

namespace Script

variable {α : Type}

/-- Runs a script, asking the given answers. -/
def run (answers : Answers) : Script α → Action α
  | .done result => pure result
  | .fail fault => throw fault
  | .expand scope text next => do
    let answer ← Action.outcome (answers.expand scope text)
    run answers (next answer)
  | .render scope text next => do
    let answer ← Action.outcome (answers.render scope text)
    run answers (next answer)
  | .draw next => do
    let id ← answers.draw
    run answers (next id)
  | .tooltip html source next => do
    let token ← answers.tooltip html source
    run answers (next token)
  | .report diagnostic next => do
    Action.report diagnostic
    run answers next

end Script

namespace Engine

variable (engine : Engine)

/-- What handlers can see of the renderer. -/
def setting : Setting := ⟨engine.config, engine.rules⟩

/-- The value of a reference. -/
def resolve (scope : Scope) (reference : Text) : Except Fault Value :=
  engine.setting.resolve scope reference

/-- Draws a fresh identifier. -/
def draw : Action String := do
  let journal ← get
  let (id, placeholders) := journal.placeholders.draw engine.words
  set { journal with placeholders }
  pure id

/-- Keeps the markup of a tooltip aside and gives the token for it. -/
def registerTooltip (html source : Text) : Action Text := do
  if engine.config.debugTooltips then
    Action.report
      { kind := .tooltipRegistered
        message := String.ofList html
        source? := some (String.ofList source) }
  let journal ← get
  let (token, placeholders) := journal.placeholders.register engine.words html
  set { journal with placeholders }
  pure token

/-- The fault of a run that evaluates too many spans. -/
def overrun : Fault := .misused "process" (.tooManyExpansions engine.config.maxExpansions)

/-- Counts one more span; beyond the limit the run fails. -/
def countExpansion : Action Unit := do
  modify fun journal => { journal with expansions := journal.expansions + 1 }
  let journal ← get
  if engine.config.maxExpansions < journal.expansions then throw engine.overrun

/-- The text of a handler's result. -/
def resultText : Value → Text
  | .string s => s.toList
  | value => value.shown

/-- Runs a handler by name on its content. -/
def dispatchWith (answers : Answers) (scope : Scope) (name : String) (content : Text) :
    Action Text := do
  match engine.registry.find? name with
  | none => throw (.unsupported (.unknownHandler name))
  | some handler =>
    let count := Arguments.count content
    if handler.accepts count then
      let value ← (handler.run engine.setting scope content).run answers
      pure (resultText value)
    else throw (.misused handler.name (.argumentCount handler.least handler.most? count))

/-- The text that stands in place of a span with the given inside. -/
def evaluate (answers : Answers) (scope : Scope) (inner : Text) : Action Text :=
  match Operation.ofInner inner with
  | .error cause => throw (.unsupported cause)
  | .ok (.pronoun forms keyword) =>
    let sex := Sex.ofString? ((scope.character.field? "sex").bind Value.string?)
    pure (forms.word keyword sex)
  | .ok (.call name content) => engine.dispatchWith answers scope name content

/-- The mark that a lenient rendering shows in place of failed notation. -/
def errorMark (message source context location : Text) : Text :=
  "<span class='inline-error'>".toList ++ Markup.escape message ++
    " | Notation: ".toList ++ Markup.escape source ++
    " | Context: ".toList ++ Markup.escape context ++
    " | Location: ".toList ++ Markup.escape location ++ "</span>".toList

/-- Reports a fault and gives the mark that shows it. -/
def showFault (scope : Scope) (fault : Fault) (source : Text) (lines : Nat) : Action Text := do
  let location := match scope.policy.location? with
    | some location => (location.advance lines).text
    | none => "unknown"
  Action.report
    { kind := .inlineError
      message := fault.message
      source? := some (String.ofList source) }
  pure (errorMark fault.message.toList source scope.describe.toList location.toList)

/-- Puts tooltips in place of their tokens, unless they are to stay. -/
def settlePlaceholders (text : Text) : Action Text := do
  let journal ← get
  if engine.config.preservePlaceholders then
    let count := journal.placeholders.entries.length
    if 0 < count then
      Action.report
        { kind := .placeholderPreserved
          message := s!"{count} tooltip placeholder(s) left in output" }
    pure text
  else
    match journal.placeholders.substitute text with
    | .ok text => pure text
    | .error cause => throw (.assembly cause)

/-- Checks that no notation is left in a document. -/
def checkNoNotation (text : Text) : Except Fault Unit :=
  match Text.cut? spanOpener text with
  | none => .ok ()
  | some (_, rest) =>
    .error (.assembly (.notationLeft (String.ofList ((spanOpener ++ rest).take 40))))

/-- Makes a document of an expanded text. -/
def finalize (text : Text) : Action Text := do
  let text ← engine.settlePlaceholders text
  liftExcept (checkNoNotation text)
  let html := if engine.config.typography then Markup.normalize text else text
  match Markup.validate none html with
  | .ok () => pure html
  | .error cause => throw (.markup cause)
where
  /-- A check as a step. -/
  liftExcept (result : Except Fault Unit) : Action Unit :=
    match result with
    | .ok () => pure ()
    | .error fault => throw fault

/-- Renders a text by the given way to expand it: outside of any expansion the tooltips and the
count start anew, and the result is made a document. -/
def renderBy (expand : Scope → Text → Action Text) (scope : Scope) (text : Text) : Action Text := do
  let journal ← get
  if 0 < journal.depth then expand scope text
  else
    set { journal with placeholders := journal.placeholders.clear, expansions := 0 }
    let expanded ← expand scope text
    engine.finalize expanded

/-- Answers that expand by the given function. -/
def answersBy (expand : Scope → Text → Action Text) : Answers where
  expand := expand
  render := engine.renderBy expand
  draw := engine.draw
  tooltip := engine.registerTooltip

/-- The text in place of a span: what it evaluates to, or the mark of its fault if the policy allows
to show it. `offset` is where in the template the span comes from. -/
def replacement (answers : Answers) (scope : Scope) (span : Span) (template : Text)
    (offset : Nat) : Action Text := do
  match ← Action.outcome (engine.evaluate answers scope span.inner) with
  | .ok text => pure text
  | .error fault =>
    if !scope.policy.strict && fault.isRecoverable then
      showFault scope fault span.whole (Origins.linesBefore template offset)
    else throw fault

/-- Replaces the spans of a text, which starts at the byte offset `start` of the partly expanded
template. Each evaluated span takes one unit of fuel. -/
def unfold :
    (fuel : Nat) → Scope → (template : Text) → Origins → (start : Nat) → Text → Action Text
  | 0, _, _, _, _, text => do
    match Span.find text with
    | .error fault => throw fault
    | .ok none => pure text
    | .ok (some _) =>
      engine.countExpansion
      throw engine.overrun
  | fuel + 1, scope, template, origins, start, text => do
    match Span.find text with
    | .error fault => throw fault
    | .ok none => pure text
    | .ok (some span) =>
      engine.countExpansion
      let start := start + Text.bytes span.before
      let answers := engine.answersBy fun scope text =>
        Action.nested (unfold fuel scope text {} 0 text)
      let shown ← engine.replacement answers scope span template (origins.source start)
      let origins := origins.replaced start (start + Text.bytes span.whole) (Text.bytes shown)
      let rest ← unfold fuel scope template origins start (shown ++ span.after)
      pure (span.before ++ rest)

/-- Expands every span of a text without making it a document. -/
def expand (scope : Scope) (text : Text) : Action Text := do
  let journal ← get
  let fuel := engine.config.maxExpansions - journal.expansions
  Action.nested (engine.unfold fuel scope text {} 0 text)

/-- Expands a text and, outside of any expansion, makes it a document. -/
def render (scope : Scope) (text : Text) : Action Text :=
  engine.renderBy engine.expand scope text

/-- Runs a handler by name on its content. -/
def dispatch (scope : Scope) (name : String) (content : Text) : Action Text :=
  engine.dispatchWith (engine.answersBy engine.expand) scope name content

end Engine

end CharacterSheet
