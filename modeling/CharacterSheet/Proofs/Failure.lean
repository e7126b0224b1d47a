import CharacterSheet.Fault

/-!
# Steps that fail

What a check can fail with is said as a kind of faults. A check made of steps fails
only with what its steps fail with.
-/

namespace CharacterSheet

namespace Fault

/-- Whether a fault is that of a reference that stands for no value. -/
def isUnresolved : Fault → Bool
  | .unresolved _ _ => true
  | _ => false

/-- Whether a fault is about the number of arguments. -/
def countsArguments : Fault → Bool
  | .misused _ (.argumentCount _ _ _) => true
  | _ => false

/-- Whether a handler may come to a fault by itself: to one that may be shown in place,
and to one about the number of its arguments only if it has not got enough. -/
def mayArise (enough : Bool) (fault : Fault) : Bool :=
  fault.isRecoverable && !(fault.countsArguments && enough)

theorem isRecoverable_of_mayArise
    {enough : Bool}
    {fault : Fault}
    (arises : fault.mayArise enough = true) :
    fault.isRecoverable = true :=
  (Bool.and_eq_true_iff.1 arises).1

/-- With enough arguments a handler does not count them. -/
theorem countsArguments_of_mayArise
    {fault : Fault}
    (arises : fault.mayArise true = true) :
    fault.countsArguments = false := by
  have uncounted := (Bool.and_eq_true_iff.1 arises).2
  rwa [Bool.and_true, Bool.not_eq_true'] at uncounted

/-- An unresolved reference may always arise. -/
theorem mayArise_of_isUnresolved
    {enough : Bool}
    {fault : Fault}
    (unresolved : fault.isUnresolved = true) :
    fault.mayArise enough = true := by
  cases fault <;> first | rfl | cases unresolved

/-- Whether a fault is one of putting a document together. -/
def isAssembly : Fault → Bool
  | .assembly _ => true
  | _ => false

/-- What may be shown in place is no fault of putting a document together. -/
theorem isAssembly_of_isRecoverable
    {fault : Fault}
    (recoverable : fault.isRecoverable = true) :
    fault.isAssembly = false := by
  cases fault <;> first | rfl | cases recoverable

end Fault

variable {α β : Type} {kind : Fault → Bool}

/-- If a result is a fault, it is one of a kind. -/
def FailsOnly (kind : Fault → Bool) (result : Except Fault α) : Prop :=
  ∀ fault, result = .error fault → kind fault = true

namespace FailsOnly

theorem ok (result : α) : FailsOnly kind (.ok result) := by
  rintro fault ⟨⟩

theorem error
    {fault : Fault}
    (isKind : kind fault = true) :
    FailsOnly kind (.error fault : Except Fault α) := by
  rintro _ ⟨⟩
  exact isKind

theorem bind
    {first : Except Fault α}
    {next : α → Except Fault β}
    (firstFails : FailsOnly kind first)
    (nextFails : ∀ result, FailsOnly kind (next result)) :
    FailsOnly kind (first >>= next) := by
  cases first with
  | error fault => exact .error (firstFails fault rfl)
  | ok result => exact nextFails result

theorem foldlM
    {state item : Type}
    {step : state → item → Except Fault state}
    (stepFails : ∀ state item, FailsOnly kind (step state item))
    (start : state)
    (items : List item) :
    FailsOnly kind (items.foldlM step start) := by
  induction items generalizing start with
  | nil => exact .ok start
  | cons item items inductionHypothesis =>
      rw [List.foldlM_cons]
      exact (stepFails start item).bind inductionHypothesis

/-- What a check fails with is also of every wider kind. -/
theorem mono
    {wider : Fault → Bool}
    {result : Except Fault α}
    (wide : ∀ fault, kind fault = true → wider fault = true)
    (fails : FailsOnly kind result) :
    FailsOnly wider result :=
  fun fault failed => wide fault (fails fault failed)

/-- What may arise with any number of arguments may be shown. -/
theorem recoverable
    {result : Except Fault α}
    (fails : ∀ enough, FailsOnly (Fault.mayArise enough) result) :
    FailsOnly Fault.isRecoverable result :=
  (fails true).mono fun _ => Fault.isRecoverable_of_mayArise

end FailsOnly

end CharacterSheet
