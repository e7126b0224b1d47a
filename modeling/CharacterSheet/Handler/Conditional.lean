import CharacterSheet.Handler.Argument

/-!
# Conditional handlers

`IFTRUE`, `IFFALSE` and `IFNA` test a value, `IFIN` and `IFNOTIN` membership, and `SWITCH` compares
with several cases. Only the branch that is taken is expanded.
-/

namespace CharacterSheet

namespace Handler

/-- The branch that is taken; without an alternative the result is empty. -/
def branch (scope : Scope) (taken : Bool) (yes : Text) (no? : Option Text) : Script Value :=
  Value.ofText <$>
    match taken, no? with
    | true, _ => Argument.text scope yes
    | false, some no => Argument.text scope no
    | false, none => pure []

/-- A handler that tests its first argument. -/
def testing (name : String) (test : Setting → Scope → Text → Script Bool) : Handler where
  name := name
  least := 2
  most? := some 3
  run setting scope content :=
    match Arguments.ofContent content with
    | subject :: yes :: rest => do
      let taken ← test setting scope subject
      branch scope taken yes rest.head?
    | arguments => throw (tooFew name 2 (some 3) arguments)

/-- `IFTRUE:condition,then[,else]`. -/
def ifTrue : Handler := testing "IFTRUE" Argument.condition

/-- `IFFALSE:condition,then[,else]`. -/
def ifFalse : Handler :=
  testing "IFFALSE" fun setting scope subject => not <$> Argument.condition setting scope subject

/-- Whether an argument refers to nothing or to null. -/
def isMissing (setting : Setting) (scope : Scope) (subject : Text) : Script Bool :=
  Script.orIfUnresolved (Value.isNull <$> Argument.value setting scope subject) true

/-- `IFNA:reference,then[,else]`. -/
def ifNa : Handler := testing "IFNA" isMissing

/-- Whether the haystack holds the needle. The haystack has to resolve, the needle may be a word. -/
def isMember (setting : Setting) (scope : Scope) (needle haystack : Text) : Script Bool := do
  let needle ← Argument.valueOrWord setting scope needle
  let haystack ← Argument.value setting scope haystack
  pure (haystack.holds needle.ratingView)

/-- A handler that tests whether its second argument holds its first one. -/
def searching (name : String) (wanted : Bool) : Handler where
  name := name
  least := 3
  most? := some 4
  run setting scope content :=
    match Arguments.ofContent content with
    | needle :: haystack :: yes :: rest => do
      let found ← isMember setting scope needle haystack
      branch scope (found == wanted) yes rest.head?
    | arguments => throw (tooFew name 3 (some 4) arguments)

/-- `IFIN:needle,haystack,then[,else]`. -/
def ifIn : Handler := searching "IFIN" true

/-- `IFNOTIN:needle,haystack,then[,else]`. -/
def ifNotIn : Handler := searching "IFNOTIN" false

/-- The output of the first case that equals the subject; a last argument without a partner is the
default. -/
def firstCase (setting : Setting) (scope : Scope) (subject : Value) : List Text → Script Text
  | [] => pure []
  | [fallback] => Argument.text scope fallback
  | candidate :: output :: rest => do
    let value ← Argument.valueOrWord setting scope candidate
    if Value.looselyEqual subject value.ratingView then Argument.text scope output
    else firstCase setting scope subject rest

/-- `SWITCH:subject,case,output,...[,default]`. -/
def switch : Handler where
  name := "SWITCH"
  least := 3
  most? := none
  run setting scope content :=
    match Arguments.ofContent content with
    | subject :: cases => do
      let subject ← Script.orIfUnresolved
        (Value.ratingView <$> Argument.value setting scope subject) .null
      Value.ofText <$> firstCase setting scope subject cases
    | arguments => throw (tooFew "SWITCH" 3 none arguments)

end Handler

end CharacterSheet
