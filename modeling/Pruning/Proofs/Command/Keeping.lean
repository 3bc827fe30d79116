import Pruning.Program
import Pruning.Proofs.Command.Shell

/-!
# Commands that only look

Arguments are read, the configuration is loaded, manifests are analyzed and reports and failures are shown
without a change to the workspace. Of the program only two steps are left out here: the question whether
to prune, and the removal of entries. So until a run carries out the command that it is asked for
(`requestFor?`), it finds everything as it was (`play_program_of_asked`).
-/

namespace Pruning.Command

variable {α : Type}

/-! ## Arguments -/

theorem keeps_refuse (scope : Scope) (misuse : Misuse) : Keeps (refuse scope misuse : Command α) :=
  .bind (keeps_complain _) fun _ => .exit _

theorem keeps_showHelp (scope : Scope) : Keeps (showHelp scope : Command α) :=
  .bind .get fun _ => .bind (keeps_say _) fun _ => .exit _

theorem keeps_showHelp_bind {β : Type} (scope : Scope) (next : α → Command β) :
    Keeps (showHelp scope >>= next) :=
  fun _ => ⟨rfl, rfl, rfl, rfl⟩

theorem keeps_checkPath (scope : Scope) (names : List String) (kind : PathKind) (typed : String) :
    Keeps (checkPath scope names kind typed) := by
  refine .bind .get fun shell => ?_
  split
  case h_1 => exact .pure ()
  case h_2 => exact .ite (keeps_refuse _ _) (.pure ())
  case h_3 => exact .fail _
  case h_4 => exact keeps_refuse _ _

theorem keeps_checkOption (scope : Scope) (given : List Given) (key : String) :
    Keeps (checkOption scope given key) := by
  have paths (names : List String) (kind : PathKind) (typed : List String) :
      Keeps (typed.forM (checkPath scope names kind)) :=
    .forM fun _ _ => keeps_checkPath _ _ _ _
  refine .ite (paths _ _ _) (.ite (paths _ _ _) (.ite (paths _ _ _) (.ite ?_ (.pure ()))))
  split
  case h_1 => exact .pure ()
  case h_2 => exact .ite (keeps_refuse _ _) (.pure ())

theorem keeps_readRequest (scope : Scope) (args : List String) : Keeps (readRequest scope args) := by
  rw [readRequest]
  cases readArguments scope.options true args with
  | error misuse => exact keeps_refuse _ _
  | ok found =>
    obtain ⟨given, words⟩ := found
    refine .guard (keeps_showHelp _) fun _ => ?_
    refine .bind (.forM fun key _ => keeps_checkOption _ _ _) fun _ => ?_
    cases words with
    | nil => exact keeps_refuse _ _
    | cons manifest extra =>
      refine .bind (keeps_checkPath _ _ _ _) fun _ => ?_
      exact .guard (keeps_refuse _ _) fun _ => .pure _

theorem yields_readRequest (scope : Scope) (args : List String) :
    Yields (readRequest scope args) fun request => ∃ typed, request.manifest = .parse typed := by
  rw [readRequest]
  cases readArguments scope.options true args with
  | error misuse => exact .bind fun _ => .throw _
  | ok found =>
    obtain ⟨given, words⟩ := found
    refine .guard fun _ => .bind fun _ => ?_
    cases words with
    | nil => exact .bind fun _ => .throw _
    | cons manifest extra => exact .bind fun _ => .guard fun _ => .pure ⟨manifest, rfl⟩

theorem keeps_checkPreference (given : List Given) (key : String) :
    Keeps (checkPreference given key) := by
  refine .ite (.bind (keeps_setting? _) fun found => ?_)
    (.ite (.bind (keeps_setting? _) fun found => ?_) (.pure ()))
  · split
    case h_1 => exact keeps_checkPath _ _ _ _
    case h_2 => exact .pure ()
  · split
    case h_1 => exact .pure ()
    case h_2 => exact .ite (keeps_refuse _ _) (.pure ())

theorem keeps_readPreferences (args : List String) : Keeps (readPreferences args) := by
  have usage (next : Unit → Command (Preferences × List String)) : Keeps (do
      complain (Scope.help .program (← get).helpPage)
      exit misuseCode >>= next) :=
    .bind .get fun _ => .bind (keeps_complain _) fun _ => .exit_bind _ _
  rw [readPreferences]
  refine .ite (usage _) ?_
  cases readArguments (Scope.options .program) false args with
  | error misuse => exact keeps_refuse _ _
  | ok found =>
    obtain ⟨given, words⟩ := found
    dsimp only
    cases (keysInOrder given).find? fun key => [helpOption.key, versionOption.key].contains key with
    | some key =>
      exact .ite (keeps_showHelp_bind _ _) (.bind (keeps_say _) fun _ => .exit_bind _ _)
    | none =>
      refine .bind (.forM fun key _ => keeps_checkPreference _ _) fun _ => ?_
      exact .bind (keeps_setting? _) fun _ => .bind (keeps_setting? _) fun _ => .pure _

/-! ## The program -/

theorem keeps_setUpLog (verbosity : Nat) : Keeps (setUpLog verbosity) :=
  .bind .get fun _ => .bind (.modify fun _ => ⟨rfl, rfl, rfl, rfl⟩) fun _ => keeps_note _ _ _

theorem keeps_loadConfig (path : Option Path) : Keeps (loadConfig path) := by
  refine .rescue (keeps_read _) fun failure => ?_
  split
  · exact .bind (keeps_tell _ _) fun _ => .exit _
  · exact .fail _

theorem keeps_notePreferences (preferences : Preferences) (config : Config) :
    Keeps (notePreferences preferences config) := by
  refine .bind (keeps_note _ _ _) fun _ => .bind (keeps_note _ _ _) fun _ => ?_
  exact .guard (keeps_note _ _ _) fun _ => keeps_note _ _ _

theorem keeps_tellFailure (failure : Failure) : Keeps (tellFailure failure) := by
  unfold tellFailure
  split
  · exact .bind (keeps_tell _ _) fun _ => .exit _
  · exact .bind (keeps_tell _ _) fun _ => .exit _
  · exact .bind (keeps_tell _ _) fun _ => .bind (keeps_noteFailure _ _ _) fun _ => .exit _

theorem keeps_giveUp (channel : Channel) (name : String) (failure : Failure) :
    Keeps (giveUp channel name failure) := by
  unfold giveUp
  split
  · exact .bind (keeps_tell _ _) fun _ => .exit _
  · exact .bind (keeps_tell _ _) fun _ => .exit _
  · exact .bind (keeps_tell _ _) fun _ => .bind (keeps_noteFailure _ _ _) fun _ => .exit _

/-! ## Analyses and their reports -/

theorem keeps_readManifest (request : Request) : Keeps (readManifest request) :=
  keeps_read _

theorem keeps_analyzeModule [Version.Casing] (config : Config) (request : Request) (m : Module)
    (showsProgress : Bool) : Keeps (analyzeModule config request m showsProgress) := by
  refine .bind (keeps_read _) fun registry => .bind (keeps_ofOutcome _) fun used => ?_
  refine .bind .get fun shell => .guard (keeps_display _) fun _ => ?_
  exact .bind (keeps_logAll _) fun _ => .guard (keeps_display _) fun _ => keeps_ofOutcome _

theorem keeps_showPlan (dryRun : Bool) (entries : List Entry) : Keeps (showPlan dryRun entries) :=
  keeps_display _

theorem keeps_showTable (findings : Findings) : Keeps (showTable findings) :=
  .ite (.bind (keeps_display _) fun _ => keeps_tell _ _) (keeps_tell _ _)

theorem keeps_showFindings (format : Format) (findings : Findings) :
    Keeps (showFindings format findings) := by
  cases format with
  | table => exact keeps_showTable findings
  | simple => exact .bind (keeps_display _) fun _ => .forM fun entry _ => keeps_display _
  | json => exact keeps_say _

theorem keeps_report [Version.Casing] (config : Config) (request : Request) (format : Format) :
    Keeps (report config request format) := by
  refine .bind (keeps_note _ _ _) fun _ => .bind (keeps_readManifest request) fun m => .ite ?_ ?_
  · exact .bind (keeps_analyzeModule _ _ _ _) fun findings =>
      .bind (keeps_showFindings _ _) fun _ => .pure _
  · exact .ite (.bind (keeps_say _) fun _ => .pure _) (.bind (keeps_tell _ _) fun _ => .pure _)

theorem keeps_analyze [Version.Casing] (config : Config) (args : List String) :
    Keeps (analyze config args) := by
  refine .bind (keeps_readRequest _ _) fun request => .rescue ?_ fun failure => keeps_giveUp _ _ _
  exact .bind (keeps_report _ _ _) fun _ => .exit _

/-! ## What a run is asked -/

/-- What a run is asked to do by a command of the program, with the configuration it has, if its arguments
ask for that. -/
def askedFor (wanted : Scope) (args : List String) : Command (Option (Config × Request)) := do
  let (preferences, words) ← readPreferences args
  match words with
  | [] => return none
  | name :: rest =>
    if Scope.named? name = some wanted then
      setUpLog preferences.verbosity
      let config ← loadConfig preferences.config
      notePreferences preferences config
      let request ← readRequest wanted rest
      return some (config, request)
    else return none

/-- What a run in a shell is asked to do by a command of the program. -/
def requestFor? (wanted : Scope) (args : List String) (shell : Shell) : Option (Config × Request) :=
  match (play (askedFor wanted args) shell).1 with
  | .ok request => request
  | .error _ => none

/-- Carries out a command of the program. -/
def carryOut [Version.Casing] (wanted : Scope) (config : Config) (words : List String) : Command Unit :=
  match wanted with
  | .analyze => analyze config words
  | .prune => prune config words
  | .program => return

variable {wanted : Scope} {args : List String} {shell : Shell} {config : Config} {request : Request}

theorem play_askedFor (asked : requestFor? wanted args shell = some (config, request)) :
    ∃ after, play (askedFor wanted args) shell = (.ok (some (config, request)), after) := by
  rw [requestFor?] at asked
  cases ends : play (askedFor wanted args) shell with
  | mk outcome after =>
    rw [ends] at asked
    cases outcome with
    | error stop => cases asked
    | ok found =>
      obtain rfl : found = some (config, request) := asked
      exact ⟨after, rfl⟩

/-- A run that is asked for a command carries it out with the words of the request, in a shell where
everything is as it was. -/
theorem play_program_of_asked [Version.Casing]
    (asked : requestFor? wanted args shell = some (config, request)) :
    ∃ words prepared ready, shell.SameInputs prepared ∧ prepared.SameInputs ready ∧
      play (readRequest wanted words) prepared = (.ok request, ready) ∧
      play (program args) shell = play (carryOut wanted config words) prepared := by
  obtain ⟨after, answers⟩ := play_askedFor asked
  obtain ⟨⟨preferences, words⟩, prepared, reads, same, answers⟩ :=
    (keeps_readPreferences args).answer_of_bind answers
  cases words with
  | nil => cases answers
  | cons name rest =>
  dsimp only at answers
  split at answers
  case isFalse => cases answers
  case isTrue named =>
  obtain ⟨_, logged, logs, same', answers⟩ := (keeps_setUpLog _).answer_of_bind answers
  replace same := same.trans same'
  obtain ⟨config, loaded, loads, same', answers⟩ := (keeps_loadConfig _).answer_of_bind answers
  replace same := same.trans same'
  obtain ⟨_, noted, notes, same', answers⟩ := (keeps_notePreferences _ _).answer_of_bind answers
  replace same := same.trans same'
  obtain ⟨request, read, asks, same', answers⟩ := (keeps_readRequest _ _).answer_of_bind answers
  cases answers
  refine ⟨rest, noted, after, same, same', asks, ?_⟩
  rw [program, play_bind_of_ok _ reads]
  dsimp only
  rw [named]
  dsimp only
  rw [play_bind_of_ok _ logs, play_bind_of_ok _ loads, play_bind_of_ok _ notes]
  rfl

end Pruning.Command
