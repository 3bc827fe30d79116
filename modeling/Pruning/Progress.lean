import Pruning.Script

/-!
Progress and cancellation. A monitor counts units of work, tells every change, and answers the question
whether to go on. `Monitor.play` runs a script against a monitor: the script ends early at the first
question that is answered with no.
-/

namespace Pruning

/-- What a monitor tells after a change. -/
structure Update where
  completed : Int
  total : Int
  task : String
  deriving DecidableEq, Repr

/-- When a monitor is asked to cancel, apart from a request made directly. -/
structure Schedule where
  /-- The number of the update from which on every update makes a request. -/
  update : Option Int
  /-- How many questions are answered with yes before all others are answered with no. -/
  patience : Option Int
  deriving DecidableEq, Repr

/-- A work counter that can be cancelled. -/
structure Monitor where
  schedule : Schedule
  completed : Int
  total : Int
  task : String
  /-- A cancellation has been requested. -/
  requested : Bool
  /-- How many questions have been answered. -/
  answered : Nat
  /-- The updates told so far. -/
  updates : List Update
  deriving DecidableEq, Repr

namespace Monitor

/-- A monitor that has told nothing yet. -/
def fresh (schedule : Schedule) (requested : Bool) : Monitor :=
  ⟨schedule, 0, 0, "", requested, 0, []⟩

/-- A monitor that never cancels. -/
def silent : Monitor :=
  fresh ⟨none, none⟩ false

/-- What the monitor would tell now. -/
def state (monitor : Monitor) : Update :=
  ⟨monitor.completed, monitor.total, monitor.task⟩

/-- Tells the state. -/
def tell (monitor : Monitor) : Monitor :=
  let updates := monitor.updates ++ [monitor.state]
  let due :=
    match monitor.schedule.update with
    | some n => decide (n ≤ updates.length)
    | none => false
  { monitor with updates, requested := monitor.requested || due }

/-- Starts to count towards `total` units. -/
def start (total : Int) (task : String) (monitor : Monitor) : Monitor :=
  { monitor with total := max total 0, completed := 0, task }.tell

/-- Counts units that are done, up to the total. -/
def worked (amount : Int) (monitor : Monitor) : Monitor :=
  if amount ≤ 0 then monitor
  else { monitor with completed := min (monitor.completed + amount) monitor.total }.tell

/-- Names the work at hand. -/
def setTask (task : String) (monitor : Monitor) : Monitor :=
  { monitor with task }.tell

/-- Requests a cancellation. -/
def cancel (monitor : Monitor) : Monitor :=
  { monitor with requested := true }

/-- Whether the next question is answered with no. -/
def isDue (monitor : Monitor) : Bool :=
  monitor.requested ||
    match monitor.schedule.patience with
    | some n => decide (n ≤ monitor.answered)
    | none => false

/-- Answers the question whether to stop. -/
def ask (monitor : Monitor) : Bool × Monitor :=
  (monitor.isDue, { monitor with answered := monitor.answered + 1 })

/-- What an event other than a question does to a monitor. -/
def observe (e : Event) (monitor : Monitor) : Monitor :=
  match e with
  | .note _ => monitor
  | .phase _ => monitor
  | .poll _ => monitor
  | .start total task => monitor.start total task
  | .worked amount => monitor.worked amount
  | .task name => monitor.setTask name

/-- Plays events; `seen` holds the events played before, the latest first. -/
def playEvents {α : Type} (outcome : Except Failure α) (seen : List Event) (monitor : Monitor) :
    List Event → Script α × Monitor
  | [] => (⟨seen.reverse, outcome⟩, monitor)
  | .poll moduleId :: rest =>
    if monitor.ask.1 then
      (⟨seen.reverse, .error (.cancelled Failure.cancelMessage moduleId)⟩, monitor.ask.2)
    else playEvents outcome (.poll moduleId :: seen) monitor.ask.2 rest
  | e :: rest => playEvents outcome (e :: seen) (monitor.observe e) rest

/-- Plays a script: the part of it that takes place, with its outcome, and the monitor afterwards. -/
def play {α : Type} (script : Script α) (monitor : Monitor) : Script α × Monitor :=
  playEvents script.outcome [] monitor script.events

end Monitor

/-- The name of the work of an analysis that has found `count` entries. -/
def countMessage (count : Int) : String :=
  let noun := if count = 1 then "dependency" else "dependencies"
  s!"Analyzing: {count} unused {noun} found"

end Pruning
