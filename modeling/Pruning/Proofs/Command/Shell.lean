import Pruning.Command.Shell
import Pruning.Proofs.Filing

/-!
# What a command leaves as it was

Of all steps that a command is made of, only `file` changes the workspace, and only `ask` reads what was
typed. A command without them keeps both (`Command.Keeps`), wherever it stops. What such a command leaves
behind is told by what follows on its answers (`Command.Keeps.leaves_bind`). A command that answers has
answered at every step (`Command.answer_of_bind`), so what is known of an answer is known of its parts.
-/

namespace Pruning

namespace Command

variable {α β : Type} {shell after : Shell} {command : Command α} {failure : Failure}

/-- What a command ends with, and the shell that it leaves behind. -/
def play (command : Command α) (shell : Shell) : Except Stop α × Shell :=
  StateT.run (ExceptT.run command) shell

theorem play_bind_of_ok {a : α} (next : α → Command β)
    (answers : play command shell = (.ok a, after)) :
    play (command >>= next) shell = play (next a) after := by
  rw [play] at answers
  rw [play, ExceptT.run_bind, StateT.run_bind, answers]
  rfl

theorem play_bind_of_error {stop : Stop} (next : α → Command β)
    (stops : play command shell = (.error stop, after)) :
    play (command >>= next) shell = (.error stop, after) := by
  rw [play] at stops
  rw [play, ExceptT.run_bind, StateT.run_bind, stops]
  rfl

theorem play_map_of_ok {a : α} (f : α → β) (answers : play command shell = (.ok a, after)) :
    play (f <$> command) shell = (.ok (f a), after) := by
  rw [← bind_pure_comp, play_bind_of_ok _ answers]
  rfl

theorem play_map_of_error {stop : Stop} (f : α → β)
    (stops : play command shell = (.error stop, after)) :
    play (f <$> command) shell = (.error stop, after) := by
  rw [← bind_pure_comp, play_bind_of_error _ stops]

theorem play_rescue_of_failure (recover : Failure → Command α)
    (fails : play command shell = (.error (.failure failure), after)) :
    play (rescue command recover) shell = play (recover failure) after := by
  have ends : StateT.run command shell = (.error (.failure failure), after) := fails
  rw [play, rescue]
  simp only [tryCatch, tryCatchThe, MonadExceptOf.tryCatch, ExceptT.tryCatch, ExceptT.run_mk,
    StateT.run_bind]
  rw [ends]
  rfl

theorem play_rescue_of_not_failure (recover : Failure → Command α)
    (lasts : ∀ failure, (play command shell).1 ≠ .error (.failure failure)) :
    play (rescue command recover) shell = play command shell := by
  cases ends : play command shell with
  | mk outcome after =>
    have ends' : StateT.run command shell = (outcome, after) := ends
    rw [play, rescue]
    simp only [tryCatch, tryCatchThe, MonadExceptOf.tryCatch, ExceptT.tryCatch, ExceptT.run_mk,
      StateT.run_bind]
    rw [ends']
    match outcome, ends with
    | .ok a, _ => rfl
    | .error (.exit code), _ => rfl
    | .error .waiting, _ => rfl
    | .error (.mute complaint), _ => rfl
    | .error (.failure failure), ends => exact absurd (by rw [ends]) (lasts failure)

/-! ## Commands that change nothing -/

/-- The workspace, what is yet to be read, and the screen are the same in both shells. -/
structure Shell.SameInputs (before after : Shell) : Prop where
  workspace : after.workspace = before.workspace
  typed : after.typed = before.typed
  closed : after.closed = before.closed
  screen : after.screen = before.screen

theorem Shell.SameInputs.refl (shell : Shell) : shell.SameInputs shell :=
  ⟨rfl, rfl, rfl, rfl⟩

theorem Shell.SameInputs.trans {a b c : Shell} (first : a.SameInputs b) (second : b.SameInputs c) :
    a.SameInputs c :=
  ⟨second.workspace.trans first.workspace, second.typed.trans first.typed,
    second.closed.trans first.closed, second.screen.trans first.screen⟩

/-- A command that changes neither the workspace nor what is yet to be read. -/
def Keeps (command : Command α) : Prop :=
  ∀ shell : Shell, shell.SameInputs (play command shell).2

namespace Keeps

theorem pure (a : α) : Keeps (Pure.pure a : Command α) :=
  fun shell => .refl shell

theorem throw (stop : Stop) : Keeps (MonadExcept.throw stop : Command α) :=
  fun shell => .refl shell

theorem exit (code : Nat) : Keeps (exit code : Command α) :=
  .throw _

/-- Nothing follows on an exit. -/
theorem exit_bind (code : Nat) (next : α → Command β) : Keeps (Command.exit code >>= next) :=
  fun shell => .refl shell

theorem fail (failure : Failure) : Keeps (fail failure : Command α) :=
  .throw _

theorem get : Keeps (MonadState.get : Command Shell) :=
  fun shell => .refl shell

theorem modify {f : Shell → Shell} (same : ∀ shell : Shell, shell.SameInputs (f shell)) :
    Keeps (modify f : Command Unit) :=
  same

theorem bind {next : α → Command β} (first : Keeps command) (later : ∀ a, Keeps (next a)) :
    Keeps (command >>= next) := by
  intro shell
  have same := first shell
  cases ends : play command shell with
  | mk outcome after =>
    rw [ends] at same
    cases outcome with
    | error stop =>
      rw [play_bind_of_error next ends]
      exact same
    | ok a =>
      rw [play_bind_of_ok next ends]
      exact same.trans (later a after)

theorem map (f : α → β) (first : Keeps command) : Keeps (f <$> command) := by
  rw [← bind_pure_comp]
  exact .bind first fun _ => .pure _

theorem discard (first : Keeps command) : Keeps (discard command) :=
  .map _ first

theorem ite {condition : Prop} [Decidable condition] {other : Command α} (first : Keeps command)
    (second : Keeps other) : Keeps (if condition then command else other) := by
  split
  · exact first
  · exact second

/-- A step that is only taken under a condition. -/
theorem guard {condition : Prop} [Decidable condition] {command : Command Unit}
    {next : Unit → Command β} (first : Keeps command) (later : ∀ done, Keeps (next done)) :
    Keeps (if condition then command >>= next else next ()) :=
  .ite (.bind first later) (later ())

theorem rescue {recover : Failure → Command α} (first : Keeps command)
    (later : ∀ failure, Keeps (recover failure)) : Keeps (rescue command recover) := by
  intro shell
  have same := first shell
  by_cases fails : ∃ failure, (play command shell).1 = .error (.failure failure)
  · obtain ⟨failure, fails⟩ := fails
    rw [play_rescue_of_failure recover (Prod.ext fails rfl)]
    exact same.trans (later failure _)
  · rw [play_rescue_of_not_failure recover fun failure fails' => fails ⟨failure, fails'⟩]
    exact same

theorem forM {items : List α} {step : α → Command PUnit} (each : ∀ item ∈ items, Keeps (step item)) :
    Keeps (items.forM step) := by
  induction items with
  | nil => exact .pure _
  | cons item rest ih =>
    change Keeps (step item >>= fun _ => rest.forM step)
    exact .bind (each item List.mem_cons_self) fun _ =>
      ih fun other later => each other (List.mem_cons_of_mem _ later)

/-- After a command that changes nothing it is enough to look at what follows on its answers. -/
theorem leaves_bind {P : Workspace → Prop} {next : α → Command β} (keeps : Keeps command)
    (stays : P shell.workspace)
    (goes : ∀ a after, play command shell = (.ok a, after) → shell.SameInputs after →
      P (play (next a) after).2.workspace) :
    P (play (command >>= next) shell).2.workspace := by
  have same := keeps shell
  cases ends : play command shell with
  | mk outcome after =>
    rw [ends] at same
    cases outcome with
    | error stop =>
      rw [play_bind_of_error next ends, same.workspace]
      exact stays
    | ok a =>
      rw [play_bind_of_ok next ends]
      exact goes a after ends same

theorem leaves {P : Workspace → Prop} (keeps : Keeps command) (stays : P shell.workspace) :
    P (play command shell).2.workspace := by
  rw [(keeps shell).workspace]
  exact stays

end Keeps

/-- What is done about a failure changes nothing, so a command leaves what it leaves without it. -/
theorem sameInputs_rescue {recover : Failure → Command α} (later : ∀ failure, Keeps (recover failure))
    (shell : Shell) : (play command shell).2.SameInputs (play (rescue command recover) shell).2 := by
  by_cases fails : ∃ failure, (play command shell).1 = .error (.failure failure)
  · obtain ⟨failure, fails⟩ := fails
    rw [play_rescue_of_failure recover (Prod.ext fails rfl)]
    exact later failure _
  · rw [play_rescue_of_not_failure recover fun failure fails' => fails ⟨failure, fails'⟩]
    exact .refl _

theorem sameInputs_bind {next : α → Command β} (later : ∀ a, Keeps (next a)) (shell : Shell) :
    (play command shell).2.SameInputs (play (command >>= next) shell).2 := by
  cases ends : play command shell with
  | mk outcome after =>
    cases outcome with
    | error stop =>
      rw [play_bind_of_error next ends]
      exact .refl after
    | ok a =>
      rw [play_bind_of_ok next ends]
      exact later a after

/-! ## Steps of commands -/

theorem keeps_ofOutcome (outcome : Except Failure α) : Keeps (ofOutcome outcome) := by
  cases outcome with
  | ok a => exact .pure a
  | error failure => exact .fail failure

theorem keeps_say (text : String) : Keeps (say text) :=
  .modify fun _ => ⟨rfl, rfl, rfl, rfl⟩

theorem keeps_complain (text : String) : Keeps (complain text) :=
  .modify fun _ => ⟨rfl, rfl, rfl, rfl⟩

theorem keeps_setting? (name : String) : Keeps (setting? name) :=
  .bind .get fun _ => .pure _

theorem keeps_display (shown : Console.Screen → Except Console.Fault String) : Keeps (display shown) := by
  refine .bind .get fun shell => ?_
  dsimp only
  split
  case h_1 text _ =>
    split
    case h_1 => exact .throw _
    case h_2 => exact keeps_say text
  case h_2 fault _ => exact .fail _

theorem play_display_of_ok (shown : Console.Screen → Except Console.Fault String) {text : String}
    (shows : shown shell.screen = .ok text) (taken : shell.screen.refused? text = none) :
    ∃ after, shell.SameInputs after ∧ play (display shown) shell = (.ok (), after) := by
  have looked : play get shell = (.ok shell, shell) := rfl
  refine ⟨{ shell with output := shell.output ++ text }, ⟨rfl, rfl, rfl, rfl⟩, ?_⟩
  rw [display, play_bind_of_ok _ looked]
  dsimp only
  rw [shows]
  dsimp only
  rw [taken]
  rfl

theorem keeps_tell (tone : Console.Tone) (text : String) : Keeps (tell tone text) :=
  keeps_display _

theorem keeps_log (record : Record) : Keeps (log record) := by
  refine .bind .get fun shell => ?_
  split
  case h_1 style _ => exact keeps_complain _
  case h_2 => exact .pure ()

theorem keeps_note (severity : Severity) (channel : Channel) (text : String) :
    Keeps (note severity channel text) :=
  keeps_log _

theorem keeps_noteFailure (channel : Channel) (text : String) (failure : Failure) :
    Keeps (noteFailure channel text failure) :=
  keeps_note _ _ _

/-! ## Working -/

/-- The log can always be written. -/
theorem play_log (record : Record) (shell : Shell) :
    ∃ after, shell.SameInputs after ∧ play (log record) shell = (.ok (), after) := by
  have same := keeps_log record shell
  have logged : ∃ after, play (log record) shell = (.ok (), after) := by
    have looked : play get shell = (.ok shell, shell) := rfl
    rw [log, play_bind_of_ok _ looked]
    cases shell.log with
    | none => exact ⟨shell, rfl⟩
    | some style => exact ⟨_, rfl⟩
  obtain ⟨after, logged⟩ := logged
  rw [logged] at same
  exact ⟨after, same, logged⟩

theorem play_note (severity : Severity) (channel : Channel) (text : String) (shell : Shell) :
    ∃ after, shell.SameInputs after ∧ play (note severity channel text) shell = (.ok (), after) :=
  play_log _ shell

theorem play_logAll (records : List Record) (shell : Shell) :
    ∃ after, shell.SameInputs after ∧ play (records.forM log) shell = (.ok (), after) := by
  induction records generalizing shell with
  | nil => exact ⟨shell, .refl shell, rfl⟩
  | cons record rest ih =>
    obtain ⟨middle, first, logged⟩ := play_log record shell
    obtain ⟨after, later, ends⟩ := ih middle
    exact ⟨after, first.trans later, (play_bind_of_ok _ logged).trans ends⟩

theorem keeps_logAll (records : List Record) : Keeps (records.forM log) :=
  .forM fun record _ => keeps_log record

/-- A script is run to its outcome. -/
theorem play_run (script : Script α) (shell : Shell) :
    ∃ after, shell.SameInputs after ∧
      play (run script) shell = (script.outcome.mapError Stop.failure, after) := by
  obtain ⟨after, same, logged⟩ := play_logAll script.records shell
  refine ⟨after, same, (play_bind_of_ok _ logged).trans ?_⟩
  cases script.outcome <;> rfl

theorem play_run_of_ok {script : Script α} {a : α} (answers : script.outcome = .ok a) (shell : Shell) :
    ∃ after, shell.SameInputs after ∧ play (run script) shell = (.ok a, after) := by
  obtain ⟨after, same, ran⟩ := play_run script shell
  rw [answers] at ran
  exact ⟨after, same, ran⟩

theorem play_read_of_ok {script : Workspace → Script α} {a : α}
    (answers : (script shell.workspace).outcome = .ok a) :
    ∃ after, shell.SameInputs after ∧ play (read script) shell = (.ok a, after) :=
  play_run_of_ok answers shell

theorem keeps_run (script : Script α) : Keeps (run script) :=
  .bind (keeps_logAll _) fun _ => keeps_ofOutcome _

theorem keeps_read (script : Workspace → Script α) : Keeps (read script) :=
  .bind .get fun _ => keeps_run _

/-- An operation on the workspace leaves the workspace that it comes to. -/
theorem play_file {filing : Filing α} {outcome : Except Failure α} {w : Workspace}
    (comes : filing.result shell.workspace = (outcome, w)) :
    ∃ after, { shell with workspace := w }.SameInputs after ∧
      play (file filing) shell = (outcome.mapError Stop.failure, after) := by
  obtain ⟨rfl, rfl⟩ := Prod.mk.inj comes
  exact play_run _ _

/-! ## Answers -/

/-- A command that answers has answered at every step. -/
theorem answer_of_bind {next : α → Command β} {b : β}
    (answers : play (command >>= next) shell = (.ok b, after)) :
    ∃ a middle, play command shell = (.ok a, middle) ∧ play (next a) middle = (.ok b, after) := by
  cases ends : play command shell with
  | mk outcome middle =>
    cases outcome with
    | error stop =>
      rw [play_bind_of_error next ends] at answers
      cases answers
    | ok a =>
      rw [play_bind_of_ok next ends] at answers
      exact ⟨a, middle, rfl, answers⟩

/-- After a step that is only taken under a condition the rest has answered. -/
theorem answer_of_guard {condition : Prop} [Decidable condition] {command : Command Unit}
    {next : Unit → Command β} {b : β}
    (answers : play (if condition then command >>= next else next ()) shell = (.ok b, after)) :
    ∃ middle, play (next ()) middle = (.ok b, after) := by
  split at answers
  · obtain ⟨_, middle, -, answers⟩ := answer_of_bind answers
    exact ⟨middle, answers⟩
  · exact ⟨shell, answers⟩

theorem Keeps.answer_of_bind {next : α → Command β} {b : β} (keeps : Keeps command)
    (answers : play (command >>= next) shell = (.ok b, after)) :
    ∃ a middle, play command shell = (.ok a, middle) ∧ shell.SameInputs middle ∧
      play (next a) middle = (.ok b, after) := by
  obtain ⟨a, middle, first, later⟩ := Command.answer_of_bind answers
  have same := keeps shell
  rw [first] at same
  exact ⟨a, middle, first, same, later⟩

theorem answer_of_ofOutcome {outcome : Except Failure α} {a : α}
    (answers : play (ofOutcome outcome) shell = (.ok a, after)) : outcome = .ok a := by
  cases outcome with
  | error failure => cases answers
  | ok b =>
    cases answers
    rfl

theorem answer_of_run {script : Script α} {a : α}
    (answers : play (run script) shell = (.ok a, after)) : script.outcome = .ok a := by
  obtain ⟨_, middle, logged, ends⟩ := answer_of_bind answers
  exact answer_of_ofOutcome ends

theorem answer_of_read {script : Workspace → Script α} {a : α}
    (answers : play (read script) shell = (.ok a, after)) : (script shell.workspace).outcome = .ok a :=
  answer_of_run answers

/-- Every answer of a command is of a certain kind. -/
def Yields (command : Command α) (kind : α → Prop) : Prop :=
  ∀ shell a after, play command shell = (.ok a, after) → kind a

namespace Yields

variable {kind : α → Prop}

theorem pure {a : α} (holds : kind a) : Yields (Pure.pure a) kind := by
  intro shell b after answers
  cases answers
  exact holds

theorem throw (stop : Stop) : Yields (MonadExcept.throw stop : Command α) kind := by
  intro shell a after answers
  cases answers

theorem bind {command : Command β} {next : β → Command α} (later : ∀ b, Yields (next b) kind) :
    Yields (command >>= next) kind := by
  intro shell a after answers
  obtain ⟨b, middle, -, answers⟩ := Command.answer_of_bind answers
  exact later b middle a after answers

theorem guard {condition : Prop} [Decidable condition] {command : Command Unit}
    {next : Unit → Command α} (later : ∀ done, Yields (next done) kind) :
    Yields (if condition then command >>= next else next ()) kind := by
  split
  · exact .bind later
  · exact later ()

end Yields

end Command

end Pruning
