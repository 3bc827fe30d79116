import Pruning.Workspace.Basic
import Pruning.Script

/-!
Operations that change a workspace. An operation that fails leaves behind what it had done before.
-/

namespace Pruning

/-- An operation on a workspace: its script, and the workspace afterwards. -/
def Filing (α : Type) : Type :=
  Workspace → Script α × Workspace

namespace Filing

variable {α β : Type}

/-- An operation without events that changes nothing. -/
def ofOutcome (outcome : Except Failure α) : Filing α :=
  fun w => (.ofOutcome outcome, w)

/-- A failure. -/
def fail (failure : Failure) : Filing α :=
  ofOutcome (.error failure)

/-- One record for the log. -/
def note (severity : Severity) (channel : Channel) (text : String) : Filing Unit :=
  fun w => (.note severity channel text, w)

/-- A change of the workspace. -/
def change (f : Workspace → Workspace) : Filing Unit :=
  fun w => (.answer (), f w)

/-- The workspace as it is. -/
def look : Filing Workspace :=
  fun w => (.answer w, w)

/-- An operation, and what follows on its answer in the changed workspace. -/
def andThen (first : Filing α) (next : α → Filing β) : Filing β := fun w =>
  let (script, w) := first w
  match script.outcome with
  | .error failure => (⟨script.events, .error failure⟩, w)
  | .ok a =>
    let (rest, w) := next a w
    (⟨script.events ++ rest.events, rest.outcome⟩, w)

instance : Monad Filing where
  pure a := fun w => (.answer a, w)
  bind := andThen

/-- An operation, and what is done instead of giving up when it fails. -/
def orElse (first : Filing α) (recover : Failure → Filing α) : Filing α := fun w =>
  let (script, w) := first w
  match script.outcome with
  | .ok a => (⟨script.events, .ok a⟩, w)
  | .error failure =>
    let (rest, w) := recover failure w
    (⟨script.events ++ rest.events, rest.outcome⟩, w)

end Filing

end Pruning
