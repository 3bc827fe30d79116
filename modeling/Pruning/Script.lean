import Pruning.Failure
import Pruning.Log

/-!
Scripts: an answer or a failure, and the events on the way to it. The script of an analysis says when it
reports progress and when it asks whether to go on; what a monitor makes of these events is not part of
it. `Progress` plays a script against a monitor.
-/

namespace Pruning

/-- A phase of an oracle's work. -/
inductive Phase where
  | opening
  | computing
  | closing
  deriving DecidableEq, Repr

/-- Something that happens on the way to an answer. -/
inductive Event where
  /-- A record for the log. -/
  | note (record : Record)
  /-- An oracle enters a phase. -/
  | phase (phase : Phase)
  /-- The question whether to go on; the module is named when the answer is no. -/
  | poll (moduleId : Option String)
  /-- The work is divided into `total` units. -/
  | start (total : Int) (task : String)
  /-- `amount` units of the work are done. -/
  | worked (amount : Int)
  /-- The work at hand has a new name. -/
  | task (name : String)
  deriving DecidableEq, Repr

/-- Events in order, and what they lead to. -/
structure Script (α : Type) where
  events : List Event
  outcome : Except Failure α

namespace Script

variable {α β : Type}

/-- An answer without events. -/
def answer (a : α) : Script α :=
  ⟨[], .ok a⟩

/-- A failure without events. -/
def fail (failure : Failure) : Script α :=
  ⟨[], .error failure⟩

/-- An outcome without events. -/
def ofOutcome (outcome : Except Failure α) : Script α :=
  ⟨[], outcome⟩

/-- One event. -/
def event (e : Event) : Script Unit :=
  ⟨[e], .ok ()⟩

/-- One record for the log. -/
def note (severity : Severity) (channel : Channel) (text : String) : Script Unit :=
  event (.note ⟨severity, channel, text⟩)

/-- A script, and what follows on its answer. -/
def andThen (script : Script α) (next : α → Script β) : Script β :=
  match script.outcome with
  | .error failure => ⟨script.events, .error failure⟩
  | .ok a => ⟨script.events ++ (next a).events, (next a).outcome⟩

instance : Monad Script where
  pure := answer
  bind := andThen

/-- The same events and outcome, with a failure told differently. -/
def mapFailure (f : Failure → Failure) (script : Script α) : Script α :=
  ⟨script.events, script.outcome.mapError f⟩

/-- The records among the events. -/
def records (script : Script α) : List Record :=
  script.events.filterMap fun e =>
    match e with
    | .note record => some record
    | _ => none

/-- The phases among the events. -/
def phases (script : Script α) : List Phase :=
  script.events.filterMap fun e =>
    match e with
    | .phase phase => some phase
    | _ => none

end Script

end Pruning
