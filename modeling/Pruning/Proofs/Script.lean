import Mathlib.Logic.Basic
import Pruning.Progress

/-!
# Outcomes of scripts, and of scripts that are played

The outcome of a script is told step by step, whatever its events. A monitor leaves a script as it is
unless it cancels it (`Monitor.play_eq_of_not_cancels`), so what is proved of the outcome of a script
holds of every run that is not cancelled.
-/

namespace Pruning

namespace Script

variable {α β : Type}

theorem outcome_bind_of_ok {script : Script α} {a : α} (next : α → Script β)
    (answers : script.outcome = .ok a) : (script >>= next).outcome = (next a).outcome := by
  change (script.andThen next).outcome = _
  rw [andThen, answers]

theorem outcome_bind_of_error {script : Script α} {failure : Failure} (next : α → Script β)
    (fails : script.outcome = .error failure) : (script >>= next).outcome = .error failure := by
  change (script.andThen next).outcome = _
  rw [andThen, fails]

theorem events_bind_of_ok {script : Script α} {a : α} (next : α → Script β)
    (answers : script.outcome = .ok a) :
    (script >>= next).events = script.events ++ (next a).events := by
  change (script.andThen next).events = _
  rw [andThen, answers]

@[simp]
theorem outcome_pure (a : α) : (pure a : Script α).outcome = .ok a :=
  rfl

@[simp]
theorem outcome_event_bind (e : Event) (next : Unit → Script β) :
    (event e >>= next).outcome = (next ()).outcome :=
  rfl

@[simp]
theorem outcome_note_bind (severity : Severity) (channel : Channel) (text : String)
    (next : Unit → Script β) : (note severity channel text >>= next).outcome = (next ()).outcome :=
  rfl

@[simp]
theorem outcome_ofOutcome_bind_ok (a : α) (next : α → Script β) :
    (ofOutcome (.ok a) >>= next).outcome = (next a).outcome :=
  rfl

/-- An answer stays, however failures are told. -/
theorem outcome_mapFailure_of_ok {script : Script α} {a : α} (f : Failure → Failure)
    (answers : script.outcome = .ok a) : (script.mapFailure f).outcome = .ok a := by
  rw [mapFailure, answers]
  rfl

theorem andThen_assoc {γ : Type} (script : Script α) (next : α → Script β) (last : β → Script γ) :
    (script.andThen next).andThen last = script.andThen fun a => (next a).andThen last := by
  obtain ⟨events, outcome⟩ := script
  cases outcome with
  | error failure => rfl
  | ok a =>
    cases later : (next a).outcome with
    | error failure => simp [andThen, later]
    | ok b => simp [andThen, later]

instance : LawfulMonad Script :=
  LawfulMonad.mk' Script
    (fun script => by
      change script.andThen answer = script
      obtain ⟨events, outcome⟩ := script
      cases outcome with
      | error failure => rfl
      | ok a => simp [andThen, answer])
    (fun a next => by
      change (answer a).andThen next = next a
      simp [andThen, answer])
    (fun script next last => andThen_assoc script next last)

/-- A script that fails does so in its first part, or in what follows on the answer of this part. -/
theorem failure_of_bind {script : Script α} {next : α → Script β} {failure : Failure}
    (fails : (script >>= next).outcome = .error failure) :
    script.outcome = .error failure ∨
      ∃ a, script.outcome = .ok a ∧ (next a).outcome = .error failure := by
  cases first : script.outcome with
  | error cause =>
    rw [outcome_bind_of_error next first] at fails
    cases fails
    exact Or.inl rfl
  | ok a =>
    rw [outcome_bind_of_ok next first] at fails
    exact Or.inr ⟨a, rfl, fails⟩

/-- A script that answers has answered in its first part. -/
theorem answer_of_bind {script : Script α} {next : α → Script β} {b : β}
    (answers : (script >>= next).outcome = .ok b) :
    ∃ a, script.outcome = .ok a ∧ (next a).outcome = .ok b := by
  cases first : script.outcome with
  | error cause =>
    rw [outcome_bind_of_error next first] at answers
    cases answers
  | ok a =>
    rw [outcome_bind_of_ok next first] at answers
    exact ⟨a, rfl, answers⟩

/-- What follows on a script matters only at the answer that the script gives. -/
theorem bind_congr {script : Script α} {next next' : α → Script β}
    (same : ∀ a, script.outcome = .ok a → next a = next' a) : (script >>= next) = (script >>= next') := by
  change script.andThen next = script.andThen next'
  rw [andThen, andThen]
  split
  case h_1 => rfl
  case h_2 a answers => rw [same a answers]

/-- A loop whose rounds all go on to the next one has nothing to fail with. -/
theorem outcome_forIn_of_yield {items : List α} {round : α → PUnit → Script (ForInStep PUnit)}
    (goesOn : ∀ item ∈ items, (round item PUnit.unit).outcome = .ok (.yield PUnit.unit)) :
    (forIn items PUnit.unit round).outcome = .ok PUnit.unit := by
  induction items with
  | nil => rfl
  | cons item rest ih =>
    rw [List.forIn_cons, outcome_bind_of_ok _ (goesOn item List.mem_cons_self)]
    exact ih fun other later => goesOn other (List.mem_cons_of_mem _ later)

/-- A loop whose rounds all answer collects their answers. -/
theorem outcome_flatMapM_of_ok {f : α → Script (List β)} {g : α → List β} {items : List α}
    (answers : ∀ a ∈ items, (f a).outcome = .ok (g a)) :
    (items.flatMapM f).outcome = .ok (items.flatMap g) := by
  induction items with
  | nil => rfl
  | cons a rest ih =>
    have later := ih fun b member => answers b (List.mem_cons_of_mem _ member)
    rw [List.flatMapM_cons, outcome_bind_of_ok _ (answers a List.mem_cons_self),
      outcome_bind_of_ok _ later]
    rfl

/-- A loop with a round that fails ends with the failure of one of its rounds. -/
theorem outcome_flatMapM_of_error {f : α → Script (List β)} {items : List α}
    (fails : ∃ a ∈ items, ∃ failure, (f a).outcome = .error failure) :
    ∃ a ∈ items, ∃ failure, (f a).outcome = .error failure ∧
      (items.flatMapM f).outcome = .error failure := by
  induction items with
  | nil => simp at fails
  | cons a rest ih =>
    rw [List.flatMapM_cons]
    cases first : (f a).outcome with
    | error failure => exact ⟨a, List.mem_cons_self, failure, first, outcome_bind_of_error _ first⟩
    | ok found =>
      have failsLater : ∃ b ∈ rest, ∃ failure, (f b).outcome = .error failure := by
        obtain ⟨b, member, failure, fails⟩ := fails
        rcases List.mem_cons.mp member with rfl | later
        · rw [first] at fails
          cases fails
        · exact ⟨b, later, failure, fails⟩
      obtain ⟨b, later, failure, fails, ends⟩ := ih failsLater
      refine ⟨b, List.mem_cons_of_mem _ later, failure, fails, ?_⟩
      rw [outcome_bind_of_ok _ first, outcome_bind_of_error _ ends]
end Script

namespace Monitor

variable {α : Type}

/-- The monitor ends the script at one of its questions, or the script itself tells of a
cancellation. -/
def Cancels (monitor : Monitor) (script : Script α) : Prop :=
  ∃ message owner, (monitor.play script).1.outcome = .error (.cancelled message owner)

theorem playEvents_eq_or_cancelled (outcome : Except Failure α) (seen events : List Event)
    (monitor : Monitor) :
    (playEvents outcome seen monitor events).1 = ⟨seen.reverse ++ events, outcome⟩ ∨
      ∃ owner, (playEvents outcome seen monitor events).1.outcome =
        .error (.cancelled Failure.cancelMessage owner) := by
  fun_induction playEvents outcome seen monitor events with
  | case1 => simp
  | case2 seen monitor owner rest stops => exact Or.inr ⟨owner, rfl⟩
  | case3 seen monitor owner rest goesOn ih => simpa using ih
  | case4 seen monitor e rest isOther ih => simpa using ih

/-- A script that is not cancelled takes place as it is. -/
theorem play_eq_of_not_cancels {monitor : Monitor} {script : Script α}
    (uncancelled : ¬ monitor.Cancels script) : (monitor.play script).1 = script := by
  rcases playEvents_eq_or_cancelled script.outcome [] script.events monitor with
    whole | ⟨owner, cancelled⟩
  · exact whole
  · exact absurd ⟨_, owner, cancelled⟩ uncancelled

/-! ## Monitors that never cancel -/

/-- Nothing has asked the monitor to cancel, and nothing will. -/
def Idle (monitor : Monitor) : Prop :=
  monitor.schedule = ⟨none, none⟩ ∧ monitor.requested = false

theorem Idle.tell {monitor : Monitor} (idle : monitor.Idle) : monitor.tell.Idle := by
  obtain ⟨schedule, requested⟩ := idle
  exact ⟨schedule, by simp [Monitor.tell, schedule, requested]⟩

theorem Idle.observe {monitor : Monitor} (idle : monitor.Idle) (e : Event) :
    (monitor.observe e).Idle := by
  cases e with
  | note record => exact idle
  | phase phase => exact idle
  | poll moduleId => exact idle
  | start total task => exact Idle.tell idle
  | worked amount =>
    rw [Monitor.observe, Monitor.worked]
    split
    case isTrue => exact idle
    case isFalse => exact Idle.tell idle
  | task name => exact Idle.tell idle

theorem Idle.not_isDue {monitor : Monitor} (idle : monitor.Idle) : monitor.isDue = false := by
  obtain ⟨schedule, requested⟩ := idle
  simp [isDue, schedule, requested]

theorem playEvents_of_idle (outcome : Except Failure α) (seen events : List Event)
    {monitor : Monitor} (idle : monitor.Idle) :
    (playEvents outcome seen monitor events).1 = ⟨seen.reverse ++ events, outcome⟩ := by
  fun_induction playEvents outcome seen monitor events with
  | case1 => simp
  | case2 seen monitor owner rest stops => simp [ask, idle.not_isDue] at stops
  | case3 seen monitor owner rest goesOn ih =>
    rw [ih idle]
    simp
  | case4 seen monitor e rest isOther ih =>
    rw [ih (idle.observe e)]
    simp

theorem play_of_idle {monitor : Monitor} (idle : monitor.Idle) (script : Script α) :
    (monitor.play script).1 = script :=
  playEvents_of_idle script.outcome [] script.events idle

/-- A monitor that never cancels does not cancel a script with an answer. -/
theorem Idle.not_cancels {monitor : Monitor} (idle : monitor.Idle) {script : Script α} {a : α}
    (answers : script.outcome = .ok a) : ¬ monitor.Cancels script := by
  rintro ⟨message, owner, cancelled⟩
  rw [play_of_idle idle, answers] at cancelled
  cases cancelled

theorem idle_silent : silent.Idle :=
  ⟨rfl, rfl⟩

end Monitor

end Pruning
