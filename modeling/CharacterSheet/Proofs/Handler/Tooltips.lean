import CharacterSheet.Proofs.Handler.Orderly

/-!
# What handlers keep aside

A handler keeps markup aside by asking for a tooltip. `Handler.Keeps` and
`Registry.Keeps` say of which kind all such markup is. An orderly handler keeps what
its script does; of the built-in handlers all such markup is framed.
-/

namespace CharacterSheet

variable {kept : Text → Prop}

namespace Handler

/-- Whatever a handler asks to keep aside is markup of a kind. -/
def Keeps (kept : Text → Prop) (handler : Handler) : Prop :=
  ∀ setting scope content, (handler.run setting scope content).Keeps kept

/-- A handler that never asks for a tooltip. -/
def Quiet (handler : Handler) : Prop := handler.Keeps fun _ => False

theorem Quiet.keeps
    {handler : Handler}
    (quiet : handler.Quiet) :
    handler.Keeps kept :=
  fun setting scope content => (quiet setting scope content).mono fun _ => False.elim

end Handler

namespace Registry

/-- Whatever the handlers of a registry ask to keep aside is markup of a kind. -/
def Keeps (kept : Text → Prop) (registry : Registry) : Prop :=
  ∀ entry ∈ registry.entries, entry.2.Keeps kept

variable {registry : Registry}

theorem Orderly.keeps (orderly : registry.Orderly kept) : registry.Keeps kept :=
  fun entry member setting scope content => (orderly entry member setting scope content).keeps

theorem Keeps.find?
    {name : String}
    {handler : Handler}
    (keeps : registry.Keeps kept)
    (found : registry.find? name = some handler) :
    handler.Keeps kept :=
  holds_of_find? keeps found

theorem Keeps.registerAll
    {handlers : List Handler}
    (keeps : registry.Keeps kept)
    (handlersKeep : ∀ handler ∈ handlers, handler.Keeps kept) :
    (registry.registerAll handlers).Keeps kept :=
  forall_registerAll keeps handlersKeep

/-- What the built-in registry keeps aside is framed. -/
theorem keeps_builtin : builtin.Keeps Framed := orderly_builtin.keeps

end Registry

end CharacterSheet
