import CharacterSheet.Markup.Tag

/-!
# Nesting

A document is valid when its tags nest: every element that is opened is closed, innermost first.
Void elements are never closed. An allow-list restricts the names of all tags.
-/

namespace CharacterSheet

namespace Markup

/-- The elements without content. -/
def voidElements : List String :=
  ["area", "base", "br", "col", "embed", "hr", "img", "input", "link", "meta", "source", "track",
    "wbr"]

/-- The elements that may stand in the body of a tooltip. -/
def tooltipElements : List String :=
  ["p", "strong", "em", "b", "i", "u", "ul", "ol", "li", "br", "span", "div", "small", "sup",
    "sub", "table", "thead", "tbody", "tr", "th", "td", "h4", "h5", "cite"]

/-- The open elements after a tag, innermost first. -/
def nest (allowed? : Option (List String)) (opened : List String) (tag : Tag) :
    Except MarkupError (List String) :=
  let allowed := (allowed?.map fun names => names.contains tag.name).getD true
  if !allowed then .error (.notAllowed tag.name)
  else
    match tag with
    | .selfClosing _ => .ok opened
    | .opening name => .ok (if voidElements.contains name then opened else name :: opened)
    | .closing name =>
      if voidElements.contains name then .error (.closedVoid name)
      else
        match opened with
        | [] => .error (.neverOpened name)
        | innermost :: opened =>
          if innermost = name then .ok opened else .error (.crossed name innermost)

/-- Checks tags while some elements are open. -/
def checkTags (allowed? : Option (List String)) (opened : List String) :
    List Tag → Except MarkupError Unit
  | [] =>
    match opened with
    | [] => .ok ()
    | innermost :: _ => .error (.neverClosed innermost)
  | tag :: tags => do
    let opened ← nest allowed? opened tag
    checkTags allowed? opened tags

/-- Checks that the marks of a document have an end and that its tags nest. -/
def validate (allowed? : Option (List String)) (html : Text) : Except MarkupError Unit := do
  let pieces ← pieces html
  checkTags allowed? [] (tags pieces)

end Markup

end CharacterSheet
