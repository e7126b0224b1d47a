import CharacterSheet.Handler.Builtin
import CharacterSheet.Proofs.Handler.Script
import CharacterSheet.Proofs.Reference

/-!
# Tame handlers

Every built-in handler is tame: what it fails with on its own may be shown in place, and
is about the number of its arguments only if there are too few; it treats the fault of a
request in its own way only if that is an unresolved reference; it asks for no rendering;
and what it keeps aside is framed. Framed markup begins with the bracket that opens a tag
and ends with the one that closes a tag. Of the built-in handlers only `TOOLTIP` keeps
anything aside.
-/

namespace CharacterSheet

variable {enough : Bool}

namespace Setting

/-- Whatever is wrong with a reference may be shown. -/
theorem failsOnly_resolve (setting : Setting) (scope : Scope) (reference : Text) :
    FailsOnly (Fault.mayArise enough) (setting.resolve scope reference) :=
  (Reference.failsOnly_resolve setting.rules scope reference).mono
    fun _ => Fault.mayArise_of_isUnresolved

end Setting

namespace Citation

/-- Whatever is wrong with a citation may be shown. -/
theorem failsOnly_markup (citation : Citation) :
    FailsOnly (Fault.mayArise enough) citation.markup := by
  unfold markup
  split
  · exact .error rfl
  · dsimp only
    split
    · exact .error rfl
    · exact .ok _

end Citation

namespace Argument

variable {kept : Text → Prop} (setting : Setting) (scope : Scope)

theorem tame_text (argument : Text) : (text scope argument).Tame enough kept := by
  unfold text
  split <;> exact .expanded scope _

theorem tame_value (argument : Text) : (value setting scope argument).Tame enough kept := by
  unfold value
  dsimp only
  split
  · exact (Script.Tame.expanded scope _).bind fun text => .pure _
  · split
    · exact (Script.Tame.expanded scope _).bind fun text => .pure _
    · split
      · exact .pure _
      · exact .ofExcept (setting.failsOnly_resolve scope _)

theorem tame_valueOrWord (argument : Text) :
    (valueOrWord setting scope argument).Tame enough kept :=
  (tame_value setting scope argument).orIfUnresolved _

theorem tame_number (handler : String) (argument : Text) :
    (number setting scope handler argument).Tame enough kept := by
  refine (tame_value setting scope argument).bind fun value => ?_
  split
  · exact .pure _
  · exact .throw rfl

theorem tame_condition (argument : Text) :
    (condition setting scope argument).Tame enough kept :=
  ((tame_value setting scope argument).map isTrueValue).orIfUnresolved false

end Argument

namespace Expression

/-- An expression is tame if looking up its names is. -/
theorem tame_evaluate
    {kept : Text → Prop}
    {lookup : String → Script Float}
    (tame : ∀ name, (lookup name).Tame enough kept)
    (expression : Expression) :
    (expression.evaluate lookup).Tame enough kept := by
  induction expression with
  | number x => exact .pure x
  | reference name => exact tame name
  | negative inner inductionHypothesis =>
      exact inductionHypothesis.bind fun x => .pure (-x)
  | binary op left right leftHypothesis rightHypothesis =>
      refine leftHypothesis.bind fun x => rightHypothesis.bind fun y => ?_
      split
      · exact .pure _
      · exact .throw rfl

end Expression

/-- Markup that a tag opens and a tag closes. -/
structure Framed (html : Text) : Prop where
  opened : html.head? = some '<'
  closed : html.getLast? = some '>'

/-- The inside of framed markup lies between its two brackets. -/
theorem Framed.exists_inside
    {html : Text}
    (framed : Framed html) :
    ∃ inside, html = '<' :: (inside ++ ['>']) := by
  obtain ⟨before, rfl⟩ := List.getLast?_eq_some_iff.1 framed.closed
  have opened := framed.opened
  cases before with
  | nil => simp at opened
  | cons c inside =>
      cases opened
      exact ⟨inside, rfl⟩

namespace Tooltip

variable {kept : Text → Prop} (scope : Scope)

theorem tame_heading (value : Value) (field start close : String) :
    (heading scope value field start close).Tame enough kept := by
  unfold heading
  split
  · exact .pure _
  · exact (Script.Tame.expanded scope _).bind fun text => .pure _

theorem tame_block (value : Value) : (block scope value).Tame enough kept :=
  (Script.Tame.expanded scope _).bind fun _ => .pure _

theorem failsOnly_cited (value : Value) :
    FailsOnly (Fault.mayArise enough) (cited value) := by
  unfold cited
  split
  · exact Citation.failsOnly_markup _
  · exact .ok _

theorem tame_described (value : Value) : (described scope value).Tame enough kept := by
  refine (tame_heading scope value _ _ _).bind fun title => ?_
  refine (tame_heading scope value _ _ _).bind fun subtitle => ?_
  refine (Script.Tame.mapM (tame_block scope) _).bind fun blocks => ?_
  dsimp only
  split
  · exact (Script.Tame.pure _).bind fun citation => .pure _
  · refine (Script.Tame.ofExcept (failsOnly_cited _)).bind fun cited => ?_
    exact (Script.Tame.pure _).bind fun citation => .pure _

theorem tame_body (setting : Setting) (content : Text) :
    (body setting scope content).Tame enough kept := by
  unfold body
  dsimp only
  split
  · refine (Script.Tame.ofExcept (setting.failsOnly_resolve scope _)).bind fun value => ?_
    split
    · exact .expanded scope _
    · split
      · exact tame_described scope _
      · exact .pure _
  · exact Argument.tame_text scope _

theorem framed_markup (style id anchor body : Text) :
    Framed (markup style id anchor body) := by
  refine ⟨rfl, ?_⟩
  unfold markup
  rw [List.getLast?_append]
  rfl

end Tooltip

namespace Handler

/-- A handler whose script is orderly for every content. -/
def Orderly (kept : Text → Prop) (handler : Handler) : Prop :=
  ∀ setting scope content, (handler.run setting scope content).Orderly kept

/-- Whether a content gives as many arguments as a handler needs. -/
def hasEnough (handler : Handler) (content : Text) : Bool :=
  decide (handler.least ≤ (Arguments.ofContent content).length)

/-- A handler whose script is tame for every content. -/
def Tame (kept : Text → Prop) (handler : Handler) : Prop :=
  ∀ setting scope content,
    (handler.run setting scope content).Tame (handler.hasEnough content) kept

variable {kept : Text → Prop}

theorem Tame.orderly
    {handler : Handler}
    (tame : handler.Tame kept) :
    handler.Orderly kept :=
  fun setting scope content => (tame setting scope content).orderly

/-- A tame handler of one kind is one of any wider kind. -/
theorem Tame.mono
    {wider : Text → Prop}
    {handler : Handler}
    (wide : ∀ html, kept html → wider html)
    (tame : handler.Tame kept) :
    handler.Tame wider :=
  fun setting scope content => (tame setting scope content).mono wide

/-- A handler may fail for want of arguments where there are too few. -/
theorem tame_tooFew
    {α : Type}
    {handler : Handler}
    {content : Text}
    {arguments : List Text}
    (found : Arguments.ofContent content = arguments)
    (few : arguments.length < handler.least) :
    (throw (tooFew handler.name handler.least handler.most? arguments) : Script α).Tame
      (handler.hasEnough content) kept := by
  have wanting : handler.hasEnough content = false := by
    rw [hasEnough, found]
    exact decide_eq_false (Nat.not_le.2 few)
  rw [wanting]
  exact .throw rfl

theorem tame_characterName : characterName.Tame kept := by
  intro setting scope content
  unfold characterName
  dsimp only
  split
  · exact .pure _
  · exact .throw rfl

theorem tame_rewording (name : String) (change : Text → Text) :
    (rewording name change).Tame kept :=
  fun _ scope content => (Argument.tame_text scope content).map _

theorem tame_ref : ref.Tame kept :=
  fun setting scope _ =>
    (Script.Tame.ofExcept (setting.failsOnly_resolve scope _)).bind fun _ => .pure _

theorem tame_source : source.Tame kept := by
  intro setting scope content
  unfold source
  dsimp only
  split
  · refine (Script.Tame.pure _).bind fun value => ?_
    split
    · exact (Script.Tame.ofExcept (Citation.failsOnly_markup _)).map _
    · exact .throw rfl
  · refine (Script.Tame.ofExcept (setting.failsOnly_resolve scope _)).bind fun value => ?_
    split
    · exact (Script.Tame.ofExcept (Citation.failsOnly_markup _)).map _
    · exact .throw rfl

theorem tame_branch
    (scope : Scope)
    (taken : Bool)
    (yes : Text)
    (no? : Option Text) :
    (branch scope taken yes no?).Tame enough kept := by
  refine Script.Tame.map _ ?_
  split
  · exact Argument.tame_text scope yes
  · exact Argument.tame_text scope _
  · exact .pure _

/-- A handler that tests its first argument is tame if its test is. -/
theorem tame_testing
    {test : Setting → Scope → Text → Script Bool}
    (tame : ∀ enough setting scope subject, (test setting scope subject).Tame enough kept)
    (name : String) :
    (testing name test).Tame kept := by
  intro setting scope content
  unfold testing
  dsimp only
  rcases found : Arguments.ofContent content with _ | ⟨subject, _ | ⟨yes, rest⟩⟩
  · exact tame_tooFew found (by simp)
  · exact tame_tooFew found (by simp)
  · exact (tame _ setting scope subject).bind fun taken => tame_branch scope taken yes rest.head?

theorem tame_isMissing (setting : Setting) (scope : Scope) (subject : Text) :
    (isMissing setting scope subject).Tame enough kept :=
  ((Argument.tame_value setting scope subject).map Value.isNull).orIfUnresolved true

theorem tame_searching (name : String) (wanted : Bool) :
    (searching name wanted).Tame kept := by
  intro setting scope content
  unfold searching
  dsimp only
  rcases found : Arguments.ofContent content with
    _ | ⟨needle, _ | ⟨haystack, _ | ⟨yes, rest⟩⟩⟩
  · exact tame_tooFew found (by simp)
  · exact tame_tooFew found (by simp)
  · exact tame_tooFew found (by simp)
  · refine Script.Tame.bind ?_ fun found => tame_branch scope _ yes rest.head?
    refine (Argument.tame_valueOrWord setting scope needle).bind fun value => ?_
    exact (Argument.tame_value setting scope haystack).bind fun values => .pure _

theorem tame_firstCase
    (setting : Setting)
    (scope : Scope)
    (subject : Value)
    (cases : List Text) :
    (firstCase setting scope subject cases).Tame enough kept := by
  fun_induction firstCase setting scope subject cases with
  | case1 => exact .pure _
  | case2 fallback => exact Argument.tame_text scope fallback
  | case3 candidate output rest inductionHypothesis =>
      refine (Argument.tame_valueOrWord setting scope candidate).bind fun value => ?_
      split
      · exact Argument.tame_text scope output
      · exact inductionHypothesis

theorem tame_switch : switch.Tame kept := by
  intro setting scope content
  unfold switch
  dsimp only
  rcases found : Arguments.ofContent content with _ | ⟨subject, cases⟩
  · exact tame_tooFew found (by simp)
  · refine Script.Tame.bind ?_ fun value => ?_
    · exact ((Argument.tame_value setting scope subject).map Value.ratingView).orIfUnresolved .null
    · exact (tame_firstCase setting scope value cases).map _

theorem failsOnly_listed (name : String) (argument : Text) (value : Value) :
    FailsOnly (Fault.mayArise enough) (listed name argument value) := by
  unfold listed
  split
  · exact .ok _
  · exact .ok _
  · exact .ok _
  · exact .error rfl

theorem tame_inlineList : inlineList.Tame kept := by
  intro setting scope content
  unfold inlineList
  dsimp only
  rcases found : Arguments.ofContent content with _ | ⟨argument, rest⟩
  · exact tame_tooFew found (by simp)
  · refine (Argument.tame_value setting scope argument).bind fun value => ?_
    refine (Script.Tame.ofExcept (failsOnly_listed _ _ _)).bind fun items => ?_
    refine (Script.Tame.mapM (fun label => .expanded scope label) _).bind fun labels => ?_
    exact .pure _

theorem failsOnly_options (name : String) (scope : Scope) :
    FailsOnly (Fault.mayArise enough) (options name scope) := by
  unfold options
  split
  · exact .ok _
  · exact .error rfl

theorem tame_optionText (name : String) (scope : Scope) (key : String) :
    (optionText name scope key).Tame enough kept := by
  refine (Script.Tame.ofExcept (failsOnly_options name scope)).bind fun options => ?_
  split
  · exact .throw rfl
  · exact .pure _
  · exact (Script.Tame.expanded scope _).map _
  · exact .pure _

theorem tame_optionList : optionList.Tame kept := by
  intro setting scope content
  refine (Script.Tame.mapM (tame_optionText "OPTIONLIST" scope) _).bind fun texts => ?_
  dsimp only
  split <;> exact .pure _

theorem tame_inlineOption : inlineOption.Tame kept :=
  fun _ scope _ => (tame_optionText "INLINEOPTION" scope _).bind fun _ => .pure _

theorem failsOnly_operandNumber (setting : Setting) (scope : Scope) (name : String) :
    FailsOnly (Fault.mayArise enough) (operandNumber setting scope name) := by
  refine (setting.failsOnly_resolve scope _).bind fun value => ?_
  split
  · exact .ok _
  · exact .error rfl

theorem tame_arithmetic (setting : Setting) (scope : Scope) (content : Text) :
    (arithmetic setting scope content).Tame enough kept := by
  unfold arithmetic
  dsimp only
  split
  · refine (Script.Tame.expanded scope _).bind fun source => ?_
    split
    · exact .throw rfl
    · exact Expression.tame_evaluate
        (fun name => .ofExcept (failsOnly_operandNumber setting scope name)) _
  · refine (Script.Tame.pure _).bind fun source => ?_
    split
    · exact .throw rfl
    · exact Expression.tame_evaluate
        (fun name => .ofExcept (failsOnly_operandNumber setting scope name)) _

theorem tame_choosing (name : String) (start : Float) (choose : Float → Float → Float) :
    (choosing name start choose).Tame kept :=
  fun setting scope _ =>
    (Script.Tame.mapM (Argument.tame_number setting scope name) _).bind fun _ => .pure _

theorem tame_calculating (name : String) (round : Float → Float) :
    (calculating name round).Tame kept :=
  fun setting scope content => (tame_arithmetic setting scope content).bind fun _ => .pure _

theorem tame_signed : signed.Tame kept :=
  fun setting scope content => (tame_arithmetic setting scope content).bind fun _ => .pure _

theorem ValueFlags.failsOnly_add (flags : ValueFlags) (flag : Text) :
    FailsOnly (Fault.mayArise enough) (flags.add flag) := by
  unfold ValueFlags.add
  dsimp only
  split
  · exact .ok _
  · exact .ok _
  · split
    · exact .ok _
    · exact .error rfl

theorem tame_value : value.Tame kept := by
  intro setting scope content
  unfold value
  dsimp only
  rcases found : Arguments.ofContent content with _ | ⟨argument, rest⟩
  · exact tame_tooFew found (by simp)
  · refine (Script.Tame.ofExcept (.foldlM ValueFlags.failsOnly_add _ _)).bind
      fun flags => ?_
    refine Script.Tame.bind ?_ fun rating? => ?_
    · unfold ratingArgument
      dsimp only
      split
      · exact ((Argument.tame_value setting scope _).map _).orIfUnresolved none
      · exact (Argument.tame_value setting scope _).map _
    · split
      · exact .pure _
      · split <;> exact .pure _
      · exact .throw rfl

theorem tame_nameValue : nameValue.Tame kept := by
  intro setting scope content
  refine (Argument.tame_value setting scope content).bind fun value => ?_
  dsimp only
  split
  · exact .pure _
  · split
    · exact .throw rfl
    · split
      · exact .throw rfl
      · exact .pure _

theorem tame_dots : dots.Tame kept := by
  intro setting scope content
  unfold dots
  dsimp only
  rcases found : Arguments.ofContent content with _ | ⟨argument, rest⟩
  · exact tame_tooFew found (by simp)
  · refine (Argument.tame_value setting scope argument).bind fun value => ?_
    split
    · exact ((Argument.tame_number setting scope "DOTS" _).map _).bind fun most? => .pure _
    · exact (Script.Tame.pure _).bind fun most? => .pure _

/-- `TOOLTIP` keeps framed markup aside. -/
theorem tame_tooltip : tooltip.Tame Framed := by
  intro setting scope content
  unfold tooltip
  dsimp only
  split
  · refine (Argument.tame_text scope _).bind fun anchor => ?_
    refine (Tooltip.tame_body scope setting _).bind fun body => ?_
    split
    · exact .throw rfl
    · exact fun id => ⟨Tooltip.framed_markup _ _ _ _, fun token => .pure _⟩
  · exact .throw rfl

/-- What holds of every tame handler that keeps nothing aside, and of `TOOLTIP`, holds of
the built-in handlers. -/
theorem forall_builtin
    {holds : Handler → Prop}
    (quiet : ∀ handler : Handler, handler.Tame (fun _ => False) → holds handler)
    (keeping : holds tooltip) :
    ∀ handler ∈ builtin, holds handler := by
  have missing : ∀ enough setting scope subject,
      (not <$> Argument.condition setting scope subject).Tame enough fun _ => False :=
    fun _ setting scope subject => (Argument.tame_condition setting scope subject).map not
  simp only [builtin, List.forall_mem_cons]
  exact ⟨quiet _ tame_characterName, quiet _ fun _ _ _ => .pure _,
    quiet _ (tame_rewording _ _), quiet _ (tame_rewording _ _), quiet _ tame_ref,
    quiet _ tame_value, quiet _ tame_nameValue, quiet _ tame_signed,
    quiet _ tame_dots, quiet _ (tame_choosing _ _ _), quiet _ (tame_choosing _ _ _),
    quiet _ (tame_calculating _ _), quiet _ (tame_calculating _ _),
    quiet _ (tame_calculating _ _),
    quiet _ (tame_testing (fun _ => Argument.tame_condition) _),
    quiet _ (tame_testing missing _), quiet _ (tame_testing (fun _ => tame_isMissing) _),
    quiet _ (tame_searching _ _), quiet _ (tame_searching _ _), quiet _ tame_switch,
    keeping, quiet _ tame_inlineList, quiet _ tame_optionList,
    quiet _ tame_inlineOption, quiet _ tame_source,
    fun _ member => absurd member List.not_mem_nil⟩

/-- The built-in handlers are tame, and what they keep aside is framed. -/
theorem tame_builtin : ∀ handler ∈ builtin, handler.Tame Framed :=
  forall_builtin (fun _ quiet => quiet.mono fun _ => False.elim) tame_tooltip

end Handler

namespace Registry

variable {registry : Registry} {holds : Handler → Prop}

/-- What holds of every handler of a registry holds of one that is found. -/
theorem holds_of_find?
    {name : String}
    {handler : Handler}
    (all : ∀ entry ∈ registry.entries, holds entry.2)
    (found : registry.find? name = some handler) :
    holds handler := by
  obtain ⟨before, after, same, -⟩ := List.lookup_eq_some_iff.1 found
  exact all (nameKey name, handler) (by simp [same])

/-- What holds of all handlers of a registry and of further ones holds of all handlers
of both. -/
theorem forall_registerAll
    {handlers : List Handler}
    (all : ∀ entry ∈ registry.entries, holds entry.2)
    (further : ∀ handler ∈ handlers, holds handler) :
    ∀ entry ∈ (registry.registerAll handlers).entries, holds entry.2 := by
  induction handlers generalizing registry with
  | nil => exact all
  | cons handler handlers inductionHypothesis =>
      have registered : ∀ entry ∈ (registry.register handler).entries, holds entry.2 := by
        intro entry member
        rcases List.mem_cons.1 member with rfl | member
        · exact further handler List.mem_cons_self
        · exact all entry (List.mem_filter.1 member).1
      exact inductionHypothesis registered fun other member =>
        further other (List.mem_cons_of_mem handler member)

/-- A registry of orderly handlers. -/
def Orderly (kept : Text → Prop) (registry : Registry) : Prop :=
  ∀ entry ∈ registry.entries, entry.2.Orderly kept

/-- The handlers of the built-in registry are tame, and what they keep aside is framed. -/
theorem tame_builtin : ∀ entry ∈ builtin.entries, entry.2.Tame Framed :=
  forall_registerAll (fun _ member => absurd member List.not_mem_nil) Handler.tame_builtin

/-- The built-in registry is orderly, and what it keeps aside is framed. -/
theorem orderly_builtin : builtin.Orderly Framed :=
  fun entry member => (tame_builtin entry member).orderly

end Registry

end CharacterSheet
