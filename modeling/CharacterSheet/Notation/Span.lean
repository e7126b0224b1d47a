import CharacterSheet.Fault
import CharacterSheet.Text.Basic

/-!
# Spans of notation

A span is a piece of text between double braces. Spans nest, so the closer of a span is the one that
balances its opener. Outside of spans closers are plain text.
-/

namespace CharacterSheet

/-- The braces that open a span. -/
def spanOpener : Text := ['{', '{']

/-- The braces that close a span. -/
def spanCloser : Text := ['}', '}']

/-- Whether a text holds the opener of a span anywhere. -/
def hasNotation (text : Text) : Bool := Text.contains spanOpener text

/-- A text cut at a span: what stands before it, between its outer braces, and after it. -/
structure Span where
  before : Text
  inner : Text
  after : Text
  deriving DecidableEq, Repr

namespace Span

/-- The span with its braces. -/
def whole (span : Span) : Text := spanOpener ++ span.inner ++ spanCloser

/-- Reads the inside of a span up to its closer, which `depth` further closers precede. -/
def readInner? (depth : Nat) : Text → Option (Text × Text)
  | [] => none
  | '{' :: '{' :: text =>
    (readInner? (depth + 1) text).map fun (inner, after) => ('{' :: '{' :: inner, after)
  | '}' :: '}' :: text =>
    match depth with
    | 0 => some ([], text)
    | depth + 1 =>
      (readInner? depth text).map fun (inner, after) => ('}' :: '}' :: inner, after)
  | c :: text => (readInner? depth text).map fun (inner, after) => (c :: inner, after)

/-- The start of a text that is shown when its span has no closer. -/
def excerpt (text : Text) : String := String.ofList (text.take 60)

/-- The first span of a text, if there is an opener; an opener without a closer is a fault. -/
def find (text : Text) : Except Fault (Option Span) :=
  match Text.cut? spanOpener text with
  | none => .ok none
  | some (before, rest) =>
    match readInner? 0 rest with
    | some (inner, after) => .ok (some ⟨before, inner, after⟩)
    | none => .error (.unterminated (excerpt (spanOpener ++ rest)))

/-- The parts of a found span make up the text again. -/
theorem eq_of_find {text : Text} {span : Span} (h : find text = .ok (some span)) :
    text = span.before ++ span.whole ++ span.after := by
  have inside : ∀ (depth : Nat) (rest inner after : Text),
      readInner? depth rest = some (inner, after) → rest = inner ++ spanCloser ++ after := by
    intro depth rest
    fun_induction readInner? depth rest with
    | case1 => simp
    | case2 depth text ih | case4 depth text ih =>
      intro inner after found
      obtain ⟨⟨inner', after'⟩, same, eq⟩ := Option.map_eq_some_iff.1 found
      cases eq
      simp [ih _ _ same]
    | case3 text =>
      intro inner after found
      cases found
      rfl
    | case5 depth c text _ _ ih =>
      intro inner after found
      obtain ⟨⟨inner', after'⟩, same, eq⟩ := Option.map_eq_some_iff.1 found
      cases eq
      simp [ih _ _ same]
  unfold find at h
  split at h
  · cases h
  · next before rest cut =>
    split at h
    · next inner after found =>
      cases h
      simp [Text.cut?_eq_some cut, whole, inside 0 rest inner after found]
    · cases h

end Span

/-- A span together with the byte offset at which it starts. -/
structure PlacedSpan where
  start : Nat
  inner : Text
  deriving DecidableEq, Repr

namespace PlacedSpan

/-- The offset behind the opener. -/
def innerStart (span : PlacedSpan) : Nat := span.start + 2

/-- The offset of the closer. -/
def innerEnd (span : PlacedSpan) : Nat := span.innerStart + Text.bytes span.inner

/-- The offset behind the closer. -/
def «end» (span : PlacedSpan) : Nat := span.innerEnd + 2

/-- All spans of a text, each found after the end of the one before; `offset` is where the text
starts. -/
def allFrom (offset : Nat) : (fuel : Nat) → Text → Except Fault (List PlacedSpan)
  | 0, _ => .ok []
  | fuel + 1, text => do
    match ← Span.find text with
    | none => pure []
    | some found =>
      let span : PlacedSpan := ⟨offset + Text.bytes found.before, found.inner⟩
      let spans ← allFrom span.end fuel found.after
      pure (span :: spans)

/-- All spans of a text that starts at a byte offset. -/
def all (offset : Nat) (text : Text) : Except Fault (List PlacedSpan) :=
  allFrom offset (text.length + 1) text

end PlacedSpan

end CharacterSheet
