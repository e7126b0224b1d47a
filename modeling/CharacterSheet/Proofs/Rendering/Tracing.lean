import CharacterSheet.Handler.Wording
import CharacterSheet.Proofs.Rendering.Existence
import CharacterSheet.Proofs.Rendering.Origins
import Mathlib.Control.Monad.Basic
import CharacterSheet.Pattern.Linear

/-!
# Tracing characters to the template

A renderer sums up in three numbers where its text comes from. Here every character of the
text carries what stands in front of the place that it comes from: in its own place, if
nothing has touched it, or else in the place of the template span whose replacement produced
it, however often that was replaced since. Expanding with such characters, where the line of
a failed span is read off its first character, is expanding
(`Engine.expand_traces_lines`). What carries the proof is that the characters agree with
the three numbers (`Origins.Agrees`), and keep to it with every replacement.
-/

namespace CharacterSheet

/-- A character of a text that is being expanded. -/
structure Traced where
  char : Char
  /-- What stands in the template in front of the place that the character comes from. -/
  lead : Text

namespace Traced

/-- The text itself. -/
def plain (text : List Traced) : Text := text.map Traced.char

/-- The rest of a template behind what was passed of it: every character comes from its own
place. -/
def untouched (passed : Text) : Text → List Traced
  | [] => []
  | c :: rest => ⟨c, passed⟩ :: untouched (passed ++ [c]) rest

/-- What is put in place of a span: every character comes from the place of the span. -/
def produced (lead shown : Text) : List Traced := shown.map fun c => ⟨c, lead⟩

/-- What stands in front of the place that a position comes from. -/
def leadAt (position : Nat) (text : List Traced) : Text :=
  (text[position]?.map Traced.lead).getD []

@[simp] theorem plain_append (left right : List Traced) :
    plain (left ++ right) = plain left ++ plain right :=
  List.map_append

@[simp] theorem plain_produced (lead shown : Text) : plain (produced lead shown) = shown := by
  rw [plain, produced, List.map_map]
  exact List.map_id shown

@[simp] theorem plain_untouched (passed rest : Text) : plain (untouched passed rest) = rest := by
  induction rest generalizing passed with
  | nil => rfl
  | cons c rest inductionHypothesis =>
      change c :: plain (untouched _ rest) = _
      rw [inductionHypothesis]

@[simp] theorem length_produced (lead shown : Text) :
    (produced lead shown).length = shown.length :=
  List.length_map _

@[simp] theorem length_untouched (passed rest : Text) :
    (untouched passed rest).length = rest.length := by
  rw [← List.length_map Traced.char]
  exact congrArg List.length (plain_untouched passed rest)

theorem produced_append (lead left right : Text) :
    produced lead (left ++ right) = produced lead left ++ produced lead right :=
  List.map_append

/-- Behind a part of the rest one has passed that part too. -/
theorem untouched_append (passed left right : Text) :
    untouched passed (left ++ right) =
      untouched passed left ++ untouched (passed ++ left) right := by
  induction left generalizing passed with
  | nil => rw [List.nil_append, List.append_nil, untouched, List.nil_append]
  | cons c left inductionHypothesis =>
      rw [List.cons_append, untouched, untouched, inductionHypothesis, List.cons_append,
        List.append_assoc, List.singleton_append]

theorem leadAt_append
    (before : List Traced)
    (first : Traced)
    (after : List Traced) :
    leadAt before.length (before ++ first :: after) = first.lead := by
  rw [leadAt, List.getElem?_append_right (Nat.le_refl _), Nat.sub_self]
  rfl

/-- What was produced carries the place of its span. -/
theorem leadAt_inside
    (lead before : Text)
    {tail : Text}
    (proper : tail ≠ [])
    (others : List Traced) :
    leadAt before.length (produced lead (before ++ tail) ++ others) = lead := by
  cases tail with
  | nil => exact absurd rfl proper
  | cons c tail =>
      rw [produced_append, List.append_assoc, ← length_produced lead before]
      exact leadAt_append (produced lead before) ⟨c, lead⟩ (produced lead tail ++ others)

/-- What nothing has touched carries its own place. -/
theorem leadAt_behind
    (lead made seen between : Text)
    {rest : Text}
    (proper : rest ≠ []) :
    leadAt (made ++ between).length (produced lead made ++ untouched seen (between ++ rest)) =
      seen ++ between := by
  cases rest with
  | nil => exact absurd rfl proper
  | cons c rest =>
      have place : (made ++ between).length =
          (produced lead made ++ untouched seen between).length := by
        simp only [List.length_append, length_produced, length_untouched]
      rw [untouched_append, ← List.append_assoc, place, untouched]
      exact leadAt_append _ ⟨c, seen ++ between⟩ _

end Traced

namespace Origins

open Traced

/-- The characters of a text that is to be scanned from an offset carry what the origins
know: those that were produced come from the anchor, and those behind them were never
touched. -/
def Agrees (template : Text) (origins : Origins) (start : Nat) (text : List Traced) : Prop :=
  ∃ lead seen made rest,
    Tracked template origins start (plain text) seen made rest ∧
      text = produced lead made ++ untouched seen rest ∧
      lead <+: template ∧
      origins.anchor = Text.bytes lead

/-- At the beginning nothing was touched. -/
theorem agrees_start (template : Text) : Agrees template {} 0 (untouched [] template) := by
  refine ⟨[], [], [], template, ?_, rfl, List.nil_prefix, rfl⟩
  rw [plain_untouched]
  exact tracked_start template

namespace Agrees

variable {template before whole after : Text} {origins : Origins} {start : Nat}
  {text : List Traced}

/-- The source of a span is where its first character comes from. -/
theorem source
    (agrees : Agrees template origins start text)
    (parts : plain text = before ++ (whole ++ after))
    (proper : whole ≠ []) :
    leadAt before.length text <+: template ∧
      origins.source (start + Text.bytes before) =
        Text.bytes (leadAt before.length text) := by
  obtain ⟨lead, seen, made, rest, tracked, rfl, isPrefix, anchored⟩ := agrees
  have behind (between : Text) (same : before = made ++ between)
      (others : rest = between ++ (whole ++ after)) :
      leadAt before.length (produced lead made ++ untouched seen rest) <+: template ∧
        origins.source (start + Text.bytes before) =
          Text.bytes (leadAt before.length (produced lead made ++ untouched seen rest)) := by
    subst same others
    have found : whole ++ after ≠ [] := List.append_ne_nil_of_left_ne_nil proper after
    rw [leadAt_behind lead made seen between found, tracked.source_behind]
    refine ⟨⟨whole ++ after, ?_⟩, rfl⟩
    rw [tracked.template_eq, List.append_assoc]
  rcases List.append_eq_append_iff.1 (parts.symm.trans tracked.text_eq) with
    ⟨tail, inside, others⟩ | ⟨between, same, others⟩
  · by_cases ends : tail = []
    · subst ends
      rw [List.append_nil] at inside
      exact behind [] (by rw [inside, List.append_nil]) others.symm
    · subst inside
      rw [leadAt_inside lead before ends, tracked.source_inside ends]
      exact ⟨isPrefix, anchored⟩
  · exact behind between same others

/-- Behind a replacement the characters agree with the origins again. -/
theorem replaced
    (agrees : Agrees template origins start text)
    (parts : plain text = before ++ (whole ++ after))
    (proper : whole ≠ [])
    (shown : Text) :
    Agrees template
      (origins.replaced (start + Text.bytes before)
        (start + Text.bytes before + Text.bytes whole) (Text.bytes shown))
      (start + Text.bytes before)
      (produced (leadAt before.length text) shown ++
        text.drop (before ++ whole).length) := by
  obtain ⟨isPrefix, source⟩ := agrees.source parts proper
  have anchored := (anchor_replaced origins (start + Text.bytes before)
    (start + Text.bytes before + Text.bytes whole) (Text.bytes shown)).trans source
  obtain ⟨lead, seen, made, rest, tracked, rfl, -, -⟩ := agrees
  rw [← List.append_assoc] at parts
  rcases List.append_eq_append_iff.1 (parts.symm.trans tracked.text_eq) with
    ⟨tail, rfl, -⟩ | ⟨tail, reaches, rfl⟩
  · -- the span was produced as a whole, and so was what it stands in
    have inside : leadAt before.length
        (produced lead (before ++ whole ++ tail) ++ untouched seen rest) = lead := by
      rw [List.append_assoc before]
      exact leadAt_inside lead before (List.append_ne_nil_of_left_ne_nil proper tail) _
    have left : (produced lead (before ++ whole ++ tail) ++ untouched seen rest).drop
        (before ++ whole).length = produced lead tail ++ untouched seen rest := by
      rw [produced_append, List.append_assoc, ← length_produced lead (before ++ whole),
        List.drop_left]
    rw [inside] at isPrefix anchored ⊢
    rw [left, ← List.append_assoc, ← produced_append]
    refine ⟨lead, seen, shown ++ tail, rest, ?_, rfl, isPrefix, anchored⟩
    rw [plain_append, plain_produced, plain_untouched]
    exact tracked.replaced_inside shown
  · -- the span reaches into what nothing has touched
    have left : (produced lead made ++ untouched seen (tail ++ after)).drop
        (before ++ whole).length = untouched (seen ++ tail) after := by
      have passed : (before ++ whole).length =
          (produced lead made ++ untouched seen tail).length := by
        rw [reaches]
        simp only [List.length_append, length_produced, length_untouched]
      rw [untouched_append, ← List.append_assoc, passed, List.drop_left]
    rw [left]
    refine ⟨_, seen ++ tail, shown, after, ?_, rfl, isPrefix, anchored⟩
    rw [plain_append, plain_produced, plain_untouched]
    exact tracked.replaced_across reaches.symm shown

end Agrees

end Origins

namespace Engine

open Traced

variable (engine : Engine)

/-- The text in place of a span with a part of the template in front of its place. A fault
that the policy allows to show is shown on the line behind that part. -/
def replacementBehind
    (answers : Answers)
    (scope : Scope)
    (span : Span)
    (lead : Text) :
    Action Text := do
  match ← Action.outcome (engine.evaluate answers scope span.inner) with
  | .ok text => pure text
  | .error fault =>
    if scope.policy.shows fault then showFault scope fault span.whole (lead.count '\n')
    else throw fault

/-- Replaces the spans of a traced text. Whatever is put in place of a span comes from where
the span comes from. -/
def unfoldTraced : (fuel : Nat) → Scope → List Traced → Action Text
  | 0, _, text => do
    match Span.find (plain text) with
    | .error fault => throw fault
    | .ok none => pure (plain text)
    | .ok (some _) =>
      engine.countExpansion
      throw engine.overrun
  | fuel + 1, scope, text => do
    match Span.find (plain text) with
    | .error fault => throw fault
    | .ok none => pure (plain text)
    | .ok (some span) =>
      engine.countExpansion
      let lead := leadAt span.before.length text
      let answers := engine.answersBy fun scope argument =>
        Action.nested (unfoldTraced fuel scope (untouched [] argument))
      let shown ← engine.replacementBehind answers scope span lead
      let passed := (span.before ++ span.whole).length
      let rest ← unfoldTraced fuel scope (produced lead shown ++ text.drop passed)
      pure (span.before ++ rest)

/-- Expands every span of a text whose characters are traced. -/
def expandTraced (scope : Scope) (template : Text) : Action Text := do
  let journal ← get
  let fuel := engine.config.maxExpansions - journal.expansions
  Action.nested (engine.unfoldTraced fuel scope (untouched [] template))

/-- A span is replaced in the same way behind a part of the template and at its offset. -/
theorem replacement_eq_replacementBehind
    {template lead : Text}
    (isPrefix : lead <+: template)
    (answers : Answers)
    (scope : Scope)
    (span : Span) :
    engine.replacement answers scope span template (Text.bytes lead) =
      engine.replacementBehind answers scope span lead := by
  obtain ⟨rest, rfl⟩ := isPrefix
  unfold replacement replacementBehind
  rw [Origins.linesBefore_bytes]
  rfl

/-- Scanning a text whose characters agree with the origins is scanning it traced. -/
theorem unfold_eq_unfoldTraced
    (fuel : Nat)
    (scope : Scope)
    {template : Text}
    {origins : Origins}
    {start : Nat}
    {text : List Traced}
    (agrees : origins.Agrees template start text) :
    engine.unfold fuel scope template origins start (plain text) =
      engine.unfoldTraced fuel scope text := by
  induction fuel generalizing scope template origins start text with
  | zero => rfl
  | succ fuel inductionHypothesis =>
      rw [unfold, unfoldTraced]
      rcases found : Span.find (plain text) with fault | _ | span
      · rfl
      · rfl
      · have parts := Span.eq_of_find found
        rw [List.append_assoc] at parts
        have proper : span.whole ≠ [] := List.cons_ne_nil _ _
        obtain ⟨isPrefix, source⟩ := agrees.source parts proper
        have answered (scope : Scope) (argument : Text) :
            engine.unfold fuel scope argument {} 0 argument =
              engine.unfoldTraced fuel scope (untouched [] argument) := by
          rw [← inductionHypothesis scope (Origins.agrees_start argument), plain_untouched]
        have left : plain (text.drop (span.before ++ span.whole).length) = span.after := by
          rw [plain, List.map_drop]
          change (plain text).drop _ = _
          rw [parts, ← List.append_assoc, List.drop_left]
        simp only [answered]
        rw [source, engine.replacement_eq_replacementBehind isPrefix]
        refine bind_congr fun _ => bind_congr fun shown => ?_
        rw [← inductionHypothesis scope (agrees.replaced parts proper shown), plain_append,
          plain_produced, left]

/-- Every failed span that an expansion shows, at whatever level, is shown on its line: the
line of the location with the newlines added that stand in its template in front of the
place where it comes from. A span that nothing has touched comes from its own place, and one
that begins in text that was produced comes from the place of the template span whose
replacement, itself or with others after it, produced that. -/
theorem expand_traces_lines
    (scope : Scope)
    (template : Text) :
    engine.expand scope template = engine.expandTraced scope template ∧
      ∀ (inner : Scope) location answers span lead fault journal,
        inner.policy.location? = some location →
        ((engine.evaluate answers inner span.inner).on journal).1 = .error fault →
        inner.policy.shows fault = true →
          ((engine.replacementBehind answers inner span lead).on journal).1 =
            .ok (errorMark fault.message.toList span.whole inner.describe.toList
              (location.advance (lead.count '\n')).text.toList) := by
  constructor
  · unfold expand expandTraced
    refine bind_congr fun journal => ?_
    dsimp only
    rw [← engine.unfold_eq_unfoldTraced _ scope (Origins.agrees_start template),
      plain_untouched]
  · intro inner location answers span lead fault journal located failed shows
    unfold replacementBehind
    rw [Action.on_bind, Action.on_outcome, failed]
    dsimp only
    rw [if_pos shows, on_showFault, faultMark, located]

/-- Behind an empty line a reference is replaced by a text of two lines, the second of which
opens a span that the template closes. That span fails, and is shown on the line of the
reference. -/
theorem expand_traces_lines_of_opener :
    let engine : Engine :=
      { config := {}
        registry := ⟨[("REF", .ref)]⟩
        rules := ⟨[]⟩
        patterns := .linear
        words := .counting 0 }
    let location : Location := ⟨"page.html", 1⟩
    let scope : Scope :=
      { character := .object [("a", .string "\n\x7b\x7bREF:")]
        policy := { strict := false, location? := some location } }
    let lead : Text := ['\n']
    let template : Text := lead ++ "\x7b\x7bREF:a\x7d\x7dnope\x7d\x7d".toList
    let span : Span := ⟨[], "REF:nope".toList, []⟩
    let answers := engine.answersBy engine.expand
    let fault : Fault := .unresolved "nope" (.noProperty "nope" "")
    let mark : Text := errorMark fault.message.toList span.whole scope.describe.toList
      (location.advance (lead.count '\n')).text.toList
    ((engine.expand scope template).on {}).1 = .ok ("\n\n".toList ++ mark) ∧
      ((engine.replacementBehind answers scope span lead).on {}).1 = .ok mark ∧
      location.advance (lead.count '\n') = ⟨"page.html", 2⟩ := by
  intro engine location scope lead template span answers fault mark
  have failed : ((engine.evaluate answers scope span.inner).on {}).1 = .error fault := by
    decide +kernel
  obtain ⟨traces, shown⟩ := engine.expand_traces_lines scope template
  refine ⟨?_, shown scope location answers span lead fault {} rfl failed rfl, by decide⟩
  rw [traces]
  decide +kernel

end Engine

end CharacterSheet
