import Pruning.Proofs.Script

/-!
# Monitors that answer a number of questions

What a monitor tells follows from the events that take place (`Monitor.watch`), whenever it is going to
cancel: it plays a script whole, or up to one of its questions (`Monitor.play_cases`). A monitor of
patience `k` answers `k` questions with yes and all later ones with no; it cancels a script with an
answer iff the script asks more than that (`Monitor.Patient.cancels_iff`).
-/

namespace Pruning

/-- Whether an event is the question whether to go on. -/
def Event.isQuestion : Event → Bool
  | .poll _ => true
  | _ => false

namespace Script

variable {α β : Type}

/-- How many questions a script asks when it takes place as a whole. -/
def questions (script : Script α) : Nat :=
  script.events.countP Event.isQuestion

theorem questions_bind_of_ok {script : Script α} {a : α} (next : α → Script β)
    (answers : script.outcome = .ok a) :
    (script >>= next).questions = script.questions + (next a).questions := by
  rw [questions, events_bind_of_ok next answers, List.countP_append, questions, questions]

@[simp]
theorem questions_pure (a : α) : (pure a : Script α).questions = 0 :=
  rfl

@[simp]
theorem questions_ofOutcome (outcome : Except Failure α) : (ofOutcome outcome).questions = 0 :=
  rfl

@[simp]
theorem questions_mapFailure (f : Failure → Failure) (script : Script α) :
    (script.mapFailure f).questions = script.questions :=
  rfl

@[simp]
theorem questions_event (e : Event) : (event e).questions = if e.isQuestion then 1 else 0 :=
  List.countP_singleton ..

theorem questions_event_bind (e : Event) (next : Unit → Script β) :
    (event e >>= next).questions = (if e.isQuestion then 1 else 0) + (next ()).questions := by
  rw [questions_bind_of_ok next rfl, questions_event]

/-- A loop whose rounds all go on to the next one, each with the same number of questions. -/
theorem questions_forIn_of_yield {items : List α} {round : α → PUnit → Script (ForInStep PUnit)}
    (each : Nat)
    (goesOn : ∀ item ∈ items, (round item PUnit.unit).outcome = .ok (.yield PUnit.unit))
    (asks : ∀ item ∈ items, (round item PUnit.unit).questions = each) :
    (forIn items PUnit.unit round).questions = items.length * each := by
  induction items with
  | nil => simp
  | cons item rest ih =>
    have later := ih (fun other held => goesOn other (List.mem_cons_of_mem _ held))
      (fun other held => asks other (List.mem_cons_of_mem _ held))
    rw [List.forIn_cons, questions_bind_of_ok _ (goesOn item List.mem_cons_self),
      asks item List.mem_cons_self]
    dsimp only
    rw [later, List.length_cons, Nat.succ_mul, Nat.add_comm]

end Script

namespace Monitor

variable {α : Type} {monitor : Monitor} {k : Nat}

/-! ## What a monitor tells -/

/-- The monitor, with nothing that asks it to cancel. -/
def calm (monitor : Monitor) : Monitor :=
  { monitor with schedule := ⟨none, none⟩, requested := false, answered := 0 }

/-- What events do to a monitor when all of them take place. -/
def watch (monitor : Monitor) (events : List Event) : Monitor :=
  events.foldl (fun monitor e => monitor.observe e) monitor

@[simp]
theorem updates_calm (monitor : Monitor) : monitor.calm.updates = monitor.updates :=
  rfl

theorem idle_calm (monitor : Monitor) : monitor.calm.Idle :=
  ⟨rfl, rfl⟩

/-- Requests for a cancellation leave no trace in what is told. -/
theorem calm_observe (monitor : Monitor) (e : Event) :
    (monitor.observe e).calm = monitor.calm.observe e := by
  cases e with
  | note record => rfl
  | phase phase => rfl
  | poll owner => rfl
  | start total task => rfl
  | worked amount =>
    simp only [observe, worked]
    split
    case isTrue => rfl
    case isFalse => rfl
  | task name => rfl

theorem updates_observe (monitor : Monitor) (e : Event) :
    monitor.updates <+: (monitor.observe e).updates := by
  have tells : ∀ monitor : Monitor, monitor.updates <+: monitor.tell.updates :=
    fun monitor => List.prefix_append _ _
  cases e with
  | note record => exact List.prefix_rfl
  | phase phase => exact List.prefix_rfl
  | poll owner => exact List.prefix_rfl
  | start total task => exact tells { monitor with total := max total 0, completed := 0, task }
  | worked amount =>
    rw [observe, worked]
    split
    case isTrue => exact List.prefix_rfl
    case isFalse =>
      exact tells { monitor with completed := min (monitor.completed + amount) monitor.total }
  | task name => exact tells { monitor with task := name }

/-- What has been told is never taken back. -/
theorem updates_watch (monitor : Monitor) (events : List Event) :
    monitor.updates <+: (monitor.watch events).updates := by
  induction events generalizing monitor with
  | nil => exact List.prefix_rfl
  | cons e rest ih => exact (updates_observe monitor e).trans (ih (monitor.observe e))

theorem watch_append (monitor : Monitor) (before after : List Event) :
    monitor.watch (before ++ after) = (monitor.watch before).watch after :=
  List.foldl_append

theorem playEvents_cases (outcome : Except Failure α) (seen events : List Event)
    (monitor : Monitor) :
    ((playEvents outcome seen monitor events).1 = ⟨seen.reverse ++ events, outcome⟩ ∧
      (playEvents outcome seen monitor events).2.calm = monitor.calm.watch events) ∨
    ∃ before owner after, events = before ++ .poll owner :: after ∧
      (playEvents outcome seen monitor events).1 =
        ⟨seen.reverse ++ before, .error (.cancelled Failure.cancelMessage owner)⟩ ∧
      (playEvents outcome seen monitor events).2.calm = monitor.calm.watch before := by
  fun_induction playEvents outcome seen monitor events with
  | case1 => exact Or.inl ⟨by simp, rfl⟩
  | case2 seen monitor owner rest stops => exact Or.inr ⟨[], owner, rest, rfl, by simp, rfl⟩
  | case3 seen monitor owner rest goesOn ih =>
    rcases ih with ⟨whole, told⟩ | ⟨before, asker, after, split, cut, told⟩
    · exact Or.inl ⟨by simpa using whole, told⟩
    · exact Or.inr ⟨.poll owner :: before, asker, after, by rw [split]; rfl, by simpa using cut, told⟩
  | case4 seen monitor e rest isOther ih =>
    rw [calm_observe] at ih
    rcases ih with ⟨whole, told⟩ | ⟨before, asker, after, split, cut, told⟩
    · exact Or.inl ⟨by simpa using whole, told⟩
    · exact Or.inr ⟨e :: before, asker, after, by rw [split]; rfl, by simpa using cut, told⟩

/-- A script takes place as a whole, or it ends with a cancellation at one of its questions. Either way
the monitor has told what the events on the way make it tell. -/
theorem play_cases (monitor : Monitor) (script : Script α) :
    ((monitor.play script).1 = script ∧
      (monitor.play script).2.updates = (monitor.calm.watch script.events).updates) ∨
    ∃ before owner after, script.events = before ++ .poll owner :: after ∧
      (monitor.play script).1 = ⟨before, .error (.cancelled Failure.cancelMessage owner)⟩ ∧
      (monitor.play script).2.updates = (monitor.calm.watch before).updates := by
  rcases playEvents_cases script.outcome [] script.events monitor with
    ⟨whole, told⟩ | ⟨before, owner, after, split, cut, told⟩
  · exact Or.inl ⟨whole, (updates_calm _).symm.trans (congrArg Monitor.updates told)⟩
  · exact Or.inr ⟨before, owner, after, split, cut,
      (updates_calm _).symm.trans (congrArg Monitor.updates told)⟩

/-- A script that is not cancelled makes the monitor tell all of its progress. -/
theorem updates_play_of_not_cancels {script : Script α} (uncancelled : ¬ monitor.Cancels script) :
    (monitor.play script).2.updates = (monitor.calm.watch script.events).updates := by
  rcases monitor.play_cases script with ⟨_, told⟩ | ⟨before, owner, after, _, cut, _⟩
  · exact told
  · exact absurd ⟨_, owner, by rw [cut]⟩ uncancelled

/-- However a script is played, the monitor tells the beginning of what it tells of the whole. -/
theorem updates_play_prefix (monitor : Monitor) (script : Script α) :
    (monitor.play script).2.updates <+: (monitor.calm.watch script.events).updates := by
  rcases monitor.play_cases script with ⟨_, told⟩ | ⟨before, owner, after, split, _, told⟩
  · exact told ▸ List.prefix_rfl
  · rw [told, split, watch_append]
    exact updates_watch _ _

/-! ## Patience -/

/-- The monitor, which is to answer the next `k` questions with yes and all later ones with no. -/
def lasting (k : Nat) (monitor : Monitor) : Monitor :=
  { monitor.calm with schedule := ⟨none, some k⟩ }

/-- The monitor answers `k` more questions with yes, and then no other. -/
structure Patient (k : Nat) (monitor : Monitor) : Prop where
  schedule : monitor.schedule = ⟨none, some (monitor.answered + k : Nat)⟩
  unrequested : monitor.requested = false

theorem patient_lasting (k : Nat) (monitor : Monitor) : (monitor.lasting k).Patient k :=
  ⟨by simp [lasting, calm], rfl⟩

namespace Patient

theorem isDue_iff (patient : monitor.Patient k) : monitor.isDue = true ↔ k = 0 := by
  rw [isDue, patient.unrequested, patient.schedule]
  simp only [Bool.false_or, decide_eq_true_eq, Int.ofNat_le]
  omega

theorem ask (patient : monitor.Patient (k + 1)) : monitor.ask.2.Patient k where
  schedule := by
    have order : monitor.answered + (k + 1) = monitor.answered + 1 + k := by omega
    exact order ▸ patient.schedule
  unrequested := patient.unrequested

theorem tell (patient : monitor.Patient k) : monitor.tell.Patient k where
  schedule := patient.schedule
  unrequested := by simp [Monitor.tell, patient.schedule, patient.unrequested]

theorem observe (patient : monitor.Patient k) (e : Event) : (monitor.observe e).Patient k := by
  cases e with
  | note record => exact patient
  | phase phase => exact patient
  | poll owner => exact patient
  | start total task => exact tell ⟨patient.schedule, patient.unrequested⟩
  | worked amount =>
    rw [Monitor.observe, Monitor.worked]
    split
    case isTrue => exact patient
    case isFalse => exact tell ⟨patient.schedule, patient.unrequested⟩
  | task name => exact tell ⟨patient.schedule, patient.unrequested⟩

theorem playEvents_cancelled_iff (patient : monitor.Patient k) (a : α) (seen events : List Event) :
    (∃ message owner, (playEvents (.ok a) seen monitor events).1.outcome =
      .error (.cancelled message owner)) ↔ k < events.countP Event.isQuestion := by
  induction events generalizing k seen monitor with
  | nil => simp [playEvents]
  | cons e rest ih =>
    cases e with
    | poll owner =>
      rw [playEvents, List.countP_cons_of_pos rfl]
      cases k with
      | zero =>
        have due : monitor.ask.1 = true := patient.isDue_iff.mpr rfl
        rw [if_pos due]
        simp
      | succ k =>
        have goesOn : ¬ monitor.ask.1 = true := fun due => by simpa using patient.isDue_iff.mp due
        rw [if_neg goesOn, ih patient.ask, Nat.succ_lt_succ_iff]
    | note record => simpa [playEvents, Event.isQuestion] using ih (patient.observe _) _
    | phase phase => simpa [playEvents, Event.isQuestion] using ih (patient.observe _) _
    | start total task => simpa [playEvents, Event.isQuestion] using ih (patient.observe _) _
    | worked amount => simpa [playEvents, Event.isQuestion] using ih (patient.observe _) _
    | task name => simpa [playEvents, Event.isQuestion] using ih (patient.observe _) _

/-- Patience ends within a script that has an answer iff the script asks more questions. -/
theorem cancels_iff (patient : monitor.Patient k) {script : Script α} {a : α}
    (answers : script.outcome = .ok a) : monitor.Cancels script ↔ k < script.questions := by
  rw [Cancels, play, answers]
  exact patient.playEvents_cancelled_iff a [] script.events

end Patient

end Monitor

end Pruning
