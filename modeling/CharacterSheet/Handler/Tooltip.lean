import CharacterSheet.Citation
import CharacterSheet.Handler.Argument
import CharacterSheet.Markup.Nesting
import CharacterSheet.Value.Label

/-!
# Tooltips

`TOOLTIP:[.class,]anchor,content` shows an anchor in the running text and keeps its content aside.
The content is text, or a reference to text or to a record with `title`, `subtitle`, `blocks` and
`citation`. Only a few elements may stand in it.
-/

namespace CharacterSheet

namespace Tooltip

/-- The beginnings of references that may stand for the content. -/
def referenceStarts : List Text :=
  ["this.".toList, "context.".toList, "vars.".toList, "json.".toList]

/-- Whether a content is a reference and not text. -/
def isReference (content : Text) : Bool :=
  (referenceStarts.any fun start => Text.startsWith start content) && !content.any isBlank

/-- Whether a record describes a tooltip. -/
def isDescriptor (value : Value) : Bool :=
  ["title", "subtitle", "blocks", "citation"].any fun field => (value.field? field).isSome

/-- A heading of the tooltip, if the record has the text field. -/
def heading (scope : Scope) (value : Value) (field «open» close : String) : Script Text :=
  match (value.field? field).bind Value.string? with
  | none => pure []
  | some s => do
    let text ← Script.expanded scope s.toList
    pure («open».toList ++ text ++ close.toList)

/-- One block of a tooltip. -/
def block (scope : Scope) (value : Value) : Script Text := do
  let text ← Script.expanded scope value.shown
  pure ("<p>".toList ++ text ++ "</p>".toList)

/-- The citation of a tooltip: a book and a page, or else the value as text. -/
def cited (value : Value) : Except Fault Text :=
  match Citation.ofValue? value with
  | some citation => citation.markup
  | none => .ok (Markup.escape value.shown)

/-- The markup that a record describes. -/
def described (scope : Scope) (value : Value) : Script Text := do
  let title ← heading scope value "title" "<h4 class='tooltip-title'>" "</h4>"
  let subtitle ← heading scope value "subtitle" "<h5 class='tooltip-subtitle'>" "</h5>"
  let blocks ← (((value.field? "blocks").bind Value.items?).getD []).mapM (block scope)
  let citation ← match value.field? "citation" with
    | none => pure []
    | some value => do
      let cited ← Script.ofExcept (cited value)
      pure ("<cite class='tooltip-citation'>".toList ++ cited ++ "</cite>".toList)
  pure (title ++ subtitle ++ blocks.flatten ++ citation)

/-- The markup of the content. -/
def body (setting : Setting) (scope : Scope) (content : Text) : Script Text := do
  let content := Text.trim content
  if isReference content then
    let value ← Script.ofExcept (setting.resolve scope content)
    match value with
    | .string s => Script.expanded scope s.toList
    | value => if isDescriptor value then described scope value else pure value.shown
  else Argument.text scope content

/-- The style class in front of the anchor, and the rest of the content. -/
def splitClass (content : Text) : Option Text × Text :=
  match Arguments.splitAtMost ',' 2 content with
  | ['.' :: style, rest] => (some style, rest)
  | _ => (none, content)

/-- The style classes of an anchor. -/
def anchorClass (style? : Option Text) : Text :=
  let style := Text.trim (style?.getD [])
  if style.isEmpty then "tooltip-anchor".toList else "tooltip-anchor ".toList ++ style

/-- The markup of an anchor with its content. -/
def markup (style id anchor body : Text) : Text :=
  "<span class='".toList ++ style ++ "' data-tooltip='tt-".toList ++ id ++ "'>".toList ++ anchor ++
    "</span><span class='tooltip-content' id='tt-".toList ++ id ++ "' role='tooltip'>".toList ++
    body ++ "</span>".toList

end Tooltip

namespace Handler

/-- `TOOLTIP:[.class,]anchor,content`. -/
def tooltip : Handler where
  name := "TOOLTIP"
  least := 2
  most? := none
  run setting scope content := do
    let (style?, rest) := Tooltip.splitClass content
    match Arguments.splitAtMost ',' 2 rest with
    | [anchor, body] => do
      let anchor ← Argument.text scope anchor
      let body ← Tooltip.body setting scope body
      match Markup.validate (some Markup.tooltipElements) body with
      | .error cause => throw (Fault.markup cause)
      | .ok () =>
        let id ← Script.drawn
        let html := Tooltip.markup (Tooltip.anchorClass style?) id.toList anchor body
        let written := spanOpener ++ "TOOLTIP:".toList ++ content ++ spanCloser
        Value.ofText <$> Script.tooltipToken html written
    | _ => throw (Fault.misused "TOOLTIP" .noAnchor)

end Handler

end CharacterSheet
