import CharacterSheet.Notation.Span
import CharacterSheet.Rendering.Origins

/-!
# Where text comes from

While a template is expanded, the text that is still to be scanned is what replacements
produced, followed by a rest of the template that nothing has touched. The origins know
both parts by their sizes alone (`Origins.Tracked`), and a replacement keeps it so
(`Origins.Tracks.replaced`). So where a span is found that still stands as it was
written, they give its offset in the template (`Origins.Tracks.exists_before`), and the
lines before that offset are the newlines in front of the span.
-/

namespace CharacterSheet

namespace Text

/-- The text of so many bytes as a beginning has is that beginning. -/
theorem takeBytes?_append (left right : Text) :
    takeBytes? (bytes left) (left ++ right) = some left := by
  induction left with
  | nil => simp [takeBytes?]
  | cons c left inductionHypothesis =>
      have positive := c.utf8Size_pos
      obtain ⟨size, same⟩ : ∃ size, bytes (c :: left) = size + 1 :=
        ⟨bytes (c :: left) - 1, by rw [bytes_cons]; omega⟩
      have fits : c.utf8Size ≤ size + 1 := by
        rw [bytes_cons] at same
        omega
      have further : size + 1 - c.utf8Size = bytes left := by
        rw [bytes_cons] at same
        omega
      rw [same, List.cons_append, takeBytes?, if_pos fits, further, inductionHypothesis]
      rfl

theorem eq_nil_of_bytes_eq_zero
    {text : Text}
    (none : bytes text = 0) :
    text = [] := by
  cases text with
  | nil => rfl
  | cons c text =>
      have positive := c.utf8Size_pos
      rw [bytes_cons] at none
      omega

/-- Of two beginnings of a text the one with fewer bytes begins the other. -/
theorem exists_of_bytes_le
    {shorter longer more rest : Text}
    (same : longer ++ more = shorter ++ rest)
    (fewer : bytes shorter ≤ bytes longer) :
    ∃ between, longer = shorter ++ between ∧ rest = between ++ more := by
  rcases List.append_eq_append_iff.1 same with ⟨tail, rfl, rfl⟩ | ⟨tail, rfl, rfl⟩
  · rw [bytes_append] at fewer
    obtain rfl := eq_nil_of_bytes_eq_zero (show bytes tail = 0 by omega)
    exact ⟨[], by simp, rfl⟩
  · exact ⟨tail, rfl, rfl⟩

end Text

namespace Origins

/-- The lines before a part of a template are the newlines in front of it. -/
theorem linesBefore_bytes (before behind : Text) :
    linesBefore (before ++ behind) (Text.bytes before) = before.count '\n' := by
  rw [linesBefore, Text.takeBytes?_append]
  rfl

/-- The text that is to be scanned from an offset was produced in part; the rest stands
in the template behind what was seen of it, and the origins know how far both have
come. -/
structure Tracked
    (template : Text)
    (origins : Origins)
    (start : Nat)
    (text seen produced rest : Text) : Prop where
  template_eq : template = seen ++ rest
  text_eq : text = produced ++ rest
  frontier_eq : origins.frontier = start + Text.bytes produced
  shift_eq : origins.shift =
    ((start + Text.bytes produced : Nat) : Int) - (Text.bytes seen : Int)

/-- The produced text behind a replacement comes from where the replaced text did. -/
theorem anchor_replaced (origins : Origins) (start stop size : Nat) :
    (origins.replaced start stop size).anchor = origins.source start := by
  unfold replaced source
  dsimp only
  split <;> rfl

namespace Tracked

variable {template text before whole tail after seen produced rest : Text} {origins : Origins}
  {start : Nat}

/-- What stands behind all that was produced stands in the template where its source is. -/
theorem source_behind
    (tracked : Tracked template origins start text seen produced rest)
    (between : Text) :
    origins.source (start + Text.bytes (produced ++ between)) = Text.bytes (seen ++ between) := by
  have behind : origins.frontier ≤ start + Text.bytes (produced ++ between) := by
    rw [tracked.frontier_eq, Text.bytes_append]
    omega
  rw [source, if_pos behind, tracked.shift_eq, Text.bytes_append, Text.bytes_append]
  omega

/-- What stands in front of produced text comes from the anchor. -/
theorem source_inside
    (tracked : Tracked template origins start text seen (before ++ tail) rest)
    (proper : tail ≠ []) :
    origins.source (start + Text.bytes before) = origins.anchor := by
  have positive : 0 < Text.bytes tail :=
    Nat.pos_of_ne_zero fun none => proper (Text.eq_nil_of_bytes_eq_zero none)
  have inside : ¬ origins.frontier ≤ start + Text.bytes before := by
    rw [tracked.frontier_eq, Text.bytes_append]
    omega
  rw [source, if_neg inside]

/-- Replacing a part of what was produced leaves the rest where it stands. -/
theorem replaced_inside
    (tracked : Tracked template origins start text seen (before ++ whole ++ tail) rest)
    (shown : Text) :
    Tracked template
      (origins.replaced (start + Text.bytes before)
        (start + Text.bytes before + Text.bytes whole) (Text.bytes shown))
      (start + Text.bytes before) (shown ++ tail ++ rest) seen (shown ++ tail) rest := by
  have frontier := tracked.frontier_eq
  have shift := tracked.shift_eq
  refine ⟨tracked.template_eq, rfl, ?_, ?_⟩
  · simp only [Origins.replaced, frontier, Text.bytes_append]
    omega
  · simp only [Origins.replaced, shift, Text.bytes_append]
    omega

/-- Replacing a text that reaches into the rest leaves only what is behind it. -/
theorem replaced_across
    (tracked : Tracked template origins start text seen produced (tail ++ after))
    (reaches : produced ++ tail = before ++ whole)
    (shown : Text) :
    Tracked template
      (origins.replaced (start + Text.bytes before)
        (start + Text.bytes before + Text.bytes whole) (Text.bytes shown))
      (start + Text.bytes before) (shown ++ after) (seen ++ tail) shown after := by
  have frontier := tracked.frontier_eq
  have shift := tracked.shift_eq
  have sizes : Text.bytes before + Text.bytes whole = Text.bytes produced + Text.bytes tail := by
    rw [← Text.bytes_append, ← Text.bytes_append, reaches]
  refine ⟨by rw [tracked.template_eq, List.append_assoc], rfl, ?_, ?_⟩
  · simp only [Origins.replaced, frontier]
    omega
  · simp only [Origins.replaced, shift, Text.bytes_append]
    omega

end Tracked

/-- The origins know where the rest of a text stands in its template. -/
def Tracks (template : Text) (origins : Origins) (start : Nat) (text : Text) : Prop :=
  ∃ seen produced rest, Tracked template origins start text seen produced rest

/-- At the beginning nothing was produced. -/
theorem tracked_start (template : Text) : Tracked template {} 0 template [] [] template :=
  ⟨rfl, rfl, rfl, rfl⟩

theorem tracks_start (template : Text) : Tracks template {} 0 template :=
  ⟨[], [], template, tracked_start template⟩

namespace Tracks

variable {template text before whole after : Text} {origins : Origins} {start : Nat}

/-- After a replacement the origins know where the rest stands again. -/
theorem replaced
    (tracks : Tracks template origins start text)
    (parts : text = before ++ whole ++ after)
    (shown : Text) :
    Tracks template
      (origins.replaced (start + Text.bytes before)
        (start + Text.bytes before + Text.bytes whole) (Text.bytes shown))
      (start + Text.bytes before) (shown ++ after) := by
  obtain ⟨seen, produced, rest, tracked⟩ := tracks
  rcases List.append_eq_append_iff.1 (parts.symm.trans tracked.text_eq) with
    ⟨tail, rfl, rfl⟩ | ⟨tail, reaches, rfl⟩
  · rw [← List.append_assoc]
    exact ⟨_, _, _, tracked.replaced_inside shown⟩
  · exact ⟨_, _, _, tracked.replaced_across reaches.symm shown⟩

/-- A span behind all that was produced stands in the template where its source is. -/
theorem exists_before
    (tracks : Tracks template origins start text)
    (parts : text = before ++ whole ++ after)
    (written : origins.frontier ≤ start + Text.bytes before) :
    ∃ passed, template = passed ++ whole ++ after ∧
      origins.source (start + Text.bytes before) = Text.bytes passed := by
  obtain ⟨seen, produced, rest, tracked⟩ := tracks
  have same := tracked.text_eq
  rw [tracked.frontier_eq] at written
  rw [parts, List.append_assoc] at same
  obtain ⟨between, rfl, rfl⟩ := Text.exists_of_bytes_le same (by omega)
  refine ⟨seen ++ between, ?_, tracked.source_behind between⟩
  rw [tracked.template_eq]
  simp only [List.append_assoc]

end Tracks

end Origins

end CharacterSheet
