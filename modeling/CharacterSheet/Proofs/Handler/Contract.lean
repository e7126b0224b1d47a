import CharacterSheet.Identifier
import CharacterSheet.Proofs.Handler.Orderly
import CharacterSheet.Proofs.Markup.Escape
import CharacterSheet.Proofs.Notation.Span

/-!
# What handlers do with expanded text

A renderer answers a script only with expanded texts, which hold no notation, and
with drawn identifiers. `Script.Meets` says what a script does as long as that is so:
of which kind the markup is that it keeps aside, and of which kind its result. This
tells more of `TOOLTIP` than what it does for any answers: its anchor is expanded,
its body passes the allow-list, and the body is expanded too unless it shows a value
as it is (`Tooltip.Registered`).
-/

namespace CharacterSheet

/-- The outcome of an expansion: a text without notation, or a fault other than one of
putting a document together. -/
def IsExpansion : Except Fault Text → Prop
  | .ok text => ¬ spanOpener <:+: text
  | .error fault => fault.isAssembly = false

namespace Script

variable {α β : Type} {kept : Text → Prop} {gives : α → Prop}

/-- As long as its requests are answered with expansions and drawn identifiers, a
script keeps aside only markup of a kind, its result is of a kind, and it does not
fail with a fault of putting a document together. -/
def Meets (kept : Text → Prop) (gives : α → Prop) : Script α → Prop
  | .done result => gives result
  | .fail fault => fault.isAssembly = false
  | .expand _ _ next => ∀ answer, IsExpansion answer → Meets kept gives (next answer)
  | .render _ _ next => ∀ answer, IsExpansion answer → Meets kept gives (next answer)
  | .draw next => ∀ word, Meets kept gives (next (Identifier.ofWord word))
  | .tooltip html _ next => kept html ∧ ∀ token, Meets kept gives (next token)
  | .report _ next => Meets kept gives next

namespace Meets

theorem pure
    {result : α}
    (given : gives result) :
    Meets kept gives (Pure.pure result) :=
  given

theorem ofExcept
    {result : Except Fault α}
    (fails : FailsOnly Fault.isRecoverable result)
    (given : ∀ value, result = .ok value → gives value) :
    Meets kept gives (Script.ofExcept result) := by
  cases result with
  | error fault => exact Fault.isAssembly_of_isRecoverable (fails fault rfl)
  | ok result => exact given result rfl

/-- An expanded text holds no notation. -/
theorem expanded (scope : Scope) (text : Text) :
    Meets kept (fun result => ¬ spanOpener <:+: result) (Script.expanded scope text) := by
  rintro (fault | result) expansion
  · exact expansion
  · exact expansion

/-- What is of one kind is of any wider kind. -/
theorem mono
    {wider : α → Prop}
    {script : Script α}
    (wide : ∀ result, gives result → wider result)
    (meets : script.Meets kept gives) :
    script.Meets kept wider := by
  induction script with
  | done result => exact wide result meets
  | fail fault => exact meets
  | expand scope text step inductionHypothesis
  | render scope text step inductionHypothesis =>
      exact fun answer expansion => inductionHypothesis answer (meets answer expansion)
  | draw step inductionHypothesis =>
      exact fun word => inductionHypothesis _ (meets word)
  | tooltip html source step inductionHypothesis =>
      exact ⟨meets.1, fun token => inductionHypothesis token (meets.2 token)⟩
  | report diagnostic step inductionHypothesis => exact inductionHypothesis meets

theorem bind
    {ends : β → Prop}
    {script : Script α}
    {next : α → Script β}
    (first : script.Meets kept gives)
    (second : ∀ result, gives result → (next result).Meets kept ends) :
    (script >>= next).Meets kept ends := by
  change (script.bind next).Meets kept ends
  induction script with
  | done result => exact second result first
  | fail fault => exact first
  | expand scope text step inductionHypothesis
  | render scope text step inductionHypothesis =>
      exact fun answer expansion => inductionHypothesis answer (first answer expansion)
  | draw step inductionHypothesis =>
      exact fun word => inductionHypothesis _ (first word)
  | tooltip html source step inductionHypothesis =>
      exact ⟨first.1, fun token => inductionHypothesis token (first.2 token)⟩
  | report diagnostic step inductionHypothesis => exact inductionHypothesis first

theorem map
    {ends : β → Prop}
    {script : Script α}
    (change : α → β)
    (meets : script.Meets kept gives)
    (given : ∀ result, gives result → ends (change result)) :
    (change <$> script).Meets kept ends :=
  meets.bind fun result holds => pure (given result holds)

theorem mapM
    {ends : β → Prop}
    {step : α → Script β}
    (meets : ∀ item, (step item).Meets kept ends)
    (items : List α) :
    (items.mapM step).Meets kept fun results => ∀ result ∈ results, ends result := by
  induction items with
  | nil => exact fun _ member => absurd member List.not_mem_nil
  | cons item items inductionHypothesis =>
      rw [List.mapM_cons]
      refine (meets item).bind fun result given => ?_
      exact inductionHypothesis.bind fun results all => pure (List.forall_mem_cons.2 ⟨given, all⟩)

/-- Whatever an orderly script is answered, it keeps aside only markup of the kind. -/
theorem of_orderly
    {script : Script α}
    (orderly : script.Orderly kept) :
    script.Meets kept fun _ => True := by
  induction script with
  | done => trivial
  | fail fault => exact Fault.isAssembly_of_isRecoverable orderly
  | expand scope text step inductionHypothesis
  | render scope text step inductionHypothesis =>
      rintro (fault | text) expansion
      · rcases orderly.2 fault with rethrows | ⟨-, orderly⟩
        · rw [rethrows]
          exact expansion
        · exact inductionHypothesis _ orderly
      · exact inductionHypothesis _ (orderly.1 text)
  | draw step inductionHypothesis =>
      exact fun word => inductionHypothesis _ (orderly _)
  | tooltip html source step inductionHypothesis =>
      exact ⟨orderly.1, fun token => inductionHypothesis token (orderly.2 token)⟩
  | report diagnostic step inductionHypothesis => exact inductionHypothesis orderly

end Meets

end Script

namespace Citation

/-- A citation is written without braces. -/
theorem not_mem_markup
    {citation : Citation}
    {html : Text}
    (written : citation.markup = .ok html) :
    '{' ∉ html := by
  unfold markup at written
  split at written
  · cases written
  · dsimp only at written
    split at written
    · cases written
    · cases written
      simp only [List.mem_append, not_or]
      have unopened (text : Text) : '{' ∉ Markup.escape text :=
        Markup.not_mem_escape (by decide) (by decide) text
      exact ⟨⟨⟨⟨by decide, unopened _⟩, by decide⟩, unopened _⟩, by decide⟩

end Citation

namespace Argument

variable {kept : Text → Prop}

theorem meets_text (scope : Scope) (argument : Text) :
    (text scope argument).Meets kept fun result => ¬ spanOpener <:+: result := by
  unfold text
  split <;> exact .expanded scope _

end Argument

namespace Tooltip

variable {kept : Text → Prop} (scope : Scope)

/-- A value that a tooltip shows as it is: neither a text nor a record that describes
a tooltip. -/
structure Verbatim (value : Value) : Prop where
  untexted : value.string? = none
  undescribed : isDescriptor value = false

/-- The body of a tooltip: a text without notation, or a value that is referred to and
shown as it is. -/
inductive IsBody (setting : Setting) : Text → Prop
  | expanded
      {body : Text}
      (clear : ¬ spanOpener <:+: body) :
      IsBody setting body
  | shown
      {scope : Scope}
      {reference : Text}
      {value : Value}
      (resolved : setting.resolve scope reference = .ok value)
      (verbatim : Verbatim value) :
      IsBody setting value.shown

/-- The markup that `TOOLTIP` keeps aside. -/
inductive Registered (setting : Setting) : Text → Prop
  | intro
      {style? : Option Text}
      {word : UInt64}
      {anchor body : Text}
      (anchorClear : ¬ spanOpener <:+: anchor)
      (isBody : IsBody setting body)
      (allowed : Markup.validate (some Markup.tooltipElements) body = .ok ()) :
      Registered setting
        (markup (anchorClass style?) (Identifier.ofWord word).toList anchor body)

theorem Registered.framed
    {setting : Setting}
    {html : Text}
    (registered : Registered setting html) :
    Framed html := by
  cases registered
  exact framed_markup _ _ _ _

/-- Expanded text between two tags is sealed. -/
theorem passed_tagged
    {start text close : Text}
    (startClear : '{' ∉ start)
    (clear : ¬ spanOpener <:+: text)
    (proper : close ≠ [])
    (closeClear : '{' ∉ close) :
    Passed (start ++ text ++ close) := by
  rw [List.append_assoc]
  exact (Passed.of_not_mem startClear).append (Passed.append_of_clear clear proper closeClear)

theorem meets_heading
    (value : Value)
    (field : String)
    {start close : String}
    (startClear : '{' ∉ start.toList)
    (proper : close.toList ≠ [])
    (closeClear : '{' ∉ close.toList) :
    (heading scope value field start close).Meets kept Passed := by
  unfold heading
  split
  · exact .pure Passed.nil
  · refine (Script.Meets.expanded scope _).bind fun text clear => ?_
    exact .pure (passed_tagged startClear clear proper closeClear)

theorem meets_block (value : Value) : (block scope value).Meets kept Passed := by
  refine (Script.Meets.expanded scope _).bind fun text clear => ?_
  exact .pure (passed_tagged (by decide) clear (by decide) (by decide))

theorem not_mem_cited
    {value : Value}
    {html : Text}
    (written : cited value = .ok html) :
    '{' ∉ html := by
  unfold cited at written
  split at written
  · exact Citation.not_mem_markup written
  · cases written
    exact Markup.not_mem_escape (by decide) (by decide) _

/-- What a record describes is expanded. -/
theorem meets_described (value : Value) :
    (described scope value).Meets kept fun body => ¬ spanOpener <:+: body := by
  refine (meets_heading scope value _ (by decide) (by decide) (by decide)).bind
    fun title titlePassed => ?_
  refine (meets_heading scope value _ (by decide) (by decide) (by decide)).bind
    fun subtitle subtitlePassed => ?_
  refine (Script.Meets.mapM (meets_block scope) _).bind fun blocks blocksPassed => ?_
  have citing : ∀ citation, Passed citation →
      (pure (title ++ subtitle ++ blocks.flatten ++ citation) : Script Text).Meets kept
        fun body => ¬ spanOpener <:+: body := by
    intro citation citationPassed
    have passed := ((titlePassed.append subtitlePassed).append
      (Passed.flatten blocksPassed)).append citationPassed
    exact .pure passed.clear
  dsimp only
  split
  · exact (Script.Meets.pure Passed.nil).bind citing
  · next citation _ =>
      have citedClear : (Script.ofExcept (cited citation)).Meets kept fun html => '{' ∉ html :=
        .ofExcept (.recoverable fun _ => failsOnly_cited citation) fun html => not_mem_cited
      refine citedClear.bind fun cited clear => (Script.Meets.pure ?_).bind citing
      exact passed_tagged (by decide) (Passed.of_not_mem clear).clear (by decide) (by decide)

/-- A body is expanded unless it shows a value as it is. -/
theorem meets_body (setting : Setting) (content : Text) :
    (body setting scope content).Meets kept (IsBody setting) := by
  unfold body
  dsimp only
  split
  · have resolving : (Script.ofExcept (setting.resolve scope (Text.trim content))).Meets kept
        fun value => setting.resolve scope (Text.trim content) = .ok value :=
      .ofExcept (.recoverable fun _ => setting.failsOnly_resolve scope _) fun _ => id
    refine resolving.bind fun value resolved => ?_
    split
    · exact (Script.Meets.expanded scope _).mono fun _ => .expanded
    · next notText =>
        split
        · exact (meets_described scope value).mono fun _ => .expanded
        · next undescribed =>
            refine .pure (.shown resolved ⟨?_, Bool.eq_false_iff.2 undescribed⟩)
            cases value with
            | string s => exact absurd rfl (notText s)
            | _ => rfl
  · exact (Argument.meets_text scope _).mono fun _ => .expanded

end Tooltip

namespace Handler

/-- A handler that keeps aside only markup of a kind, as long as it is answered with
expansions and drawn identifiers. -/
def Meets (setting : Setting) (kept : Text → Prop) (handler : Handler) : Prop :=
  ∀ scope content, (handler.run setting scope content).Meets kept fun _ => True

variable (setting : Setting)

/-- `TOOLTIP` checks its body before it keeps anything aside. -/
theorem meets_tooltip : tooltip.Meets setting (Tooltip.Registered setting) := by
  intro scope content
  unfold tooltip
  dsimp only
  split
  · refine (Argument.meets_text scope _).bind fun anchor anchorClear => ?_
    refine (Tooltip.meets_body scope setting _).bind fun body isBody => ?_
    split
    · exact rfl
    · next allowed =>
        exact fun word => ⟨.intro anchorClear isBody allowed, fun _ => trivial⟩
  · exact rfl

end Handler

namespace Registry

/-- A registry of handlers that meet a contract. -/
def Meets (setting : Setting) (kept : Text → Prop) (registry : Registry) : Prop :=
  ∀ entry ∈ registry.entries, entry.2.Meets setting kept

/-- Of the built-in handlers only `TOOLTIP` keeps anything aside. -/
theorem meets_builtin (setting : Setting) :
    builtin.Meets setting (Tooltip.Registered setting) := by
  have handlers : ∀ handler ∈ Handler.builtin,
      handler.Meets setting (Tooltip.Registered setting) := by
    apply Handler.forall_builtin
    · intro handler quiet scope content
      exact .of_orderly ((quiet setting scope content).mono fun _ => False.elim).orderly
    · exact Handler.meets_tooltip setting
  exact forall_registerAll (fun _ member => absurd member List.not_mem_nil) handlers

end Registry

end CharacterSheet
