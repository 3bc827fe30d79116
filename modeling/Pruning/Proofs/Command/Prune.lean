import Pruning.Proofs.Command.Keeping
import Pruning.Proofs.Removal
import Pruning.Proofs.Workspace.Reading
import Pruning.Proofs.Workspace.Writing

/-!
# What pruning changes

A manifest is rewritten only when everything that is announced before has come to pass: the module was
read, its analysis found something, nobody asked for a plan only, and the user agreed (`Announced`). So a
request has one of two effects (`Effect`), and which one it has is decided step by step along the command
(`effect_pruneManifest`). Conversely what is announced is done, unless the plan cannot be shown or the
backup cannot be made (`rewritten_pruneManifest`).
-/

namespace Pruning

open Workspace

/-- Writing a module writes the text of its manifest. -/
theorem Module.result_write {w : Workspace} {manifest : Path} {place : List String}
    (writable : w.Writable manifest place) (m : Module) :
    (m.write (some manifest) false).result w =
      (.ok none, w.withFile place m.manifestText.toUTF8) := by
  have unasked : (Filing.ofOutcome (.ok false)).result w = (.ok false, w) := rfl
  have uncopied : Filing.result (pure (none : Option Path)) w = (.ok none, w) := rfl
  change Filing.result (Filing.look >>= _) w = _
  rw [Filing.result_look_bind]
  change Filing.result (Filing.ofOutcome (.ok false) >>= _) w = _
  rw [Filing.result_bind_of_ok _ unasked]
  dsimp only
  rw [if_neg Bool.false_ne_true, Filing.result_bind_of_ok _ uncopied]
  dsimp only
  rw [Filing.result_bind_of_ok _ (writable.result_write m.manifestText)]
  rfl

namespace Command

/-! ## Removing entries -/

variable {shell : Shell} {m pruned : Module} {manifest : Path} {entries : List Entry} {removed : Nat}
  {place : List String} {content : ByteArray}

/-- A backup of a manifest cannot be made. -/
def Unsaved (w : Workspace) (manifest : Path) : Prop :=
  ∃ failure, ((Workspace.backUp manifest).result w).1 = .error failure

/-- A backup is made, or it cannot be made and nothing is changed. -/
theorem play_backUp_cases (found : shell.workspace.nodeOf manifest = .ok (.file content))
    (vacant : shell.workspace.Vacant (shell.workspace.backupOf manifest))
    (readBack : Path.parse (shell.workspace.backupOf manifest).text =
      shell.workspace.backupOf manifest) :
    (Unsaved shell.workspace manifest ∧
      ∃ stop after, play (backUp manifest) shell = (.error stop, after) ∧
        after.workspace = shell.workspace) ∨
    ∃ beside after, shell.workspace.placeOf (shell.workspace.backupOf manifest) = .ok beside ∧
      play (backUp manifest) shell = (.ok (shell.workspace.backupOf manifest), after) ∧
        after.workspace = shell.workspace.withFile beside content := by
  rcases Workspace.backUp_cases found vacant readBack with ⟨failure, fails⟩ | ⟨beside, placed, made⟩
  · obtain ⟨after, same, ends⟩ := play_file fails
    exact Or.inl ⟨⟨failure, by rw [fails]⟩, _, after, play_bind_of_error _ ends, same.workspace⟩
  · obtain ⟨middle, same, ends⟩ := play_file made
    obtain ⟨after, same', noted⟩ := play_note .info .prune
      s!"Created backup: {shell.workspace.backupOf manifest}" middle
    refine Or.inr ⟨beside, after, placed, ?_, same'.workspace.trans same.workspace⟩
    exact (play_bind_of_ok _ ends).trans (play_bind_of_ok _ noted)

/-- Where a manifest can be written, it is written, and what was to be done otherwise is not. -/
theorem play_rewrite (recover : Failure → Command Unit) {told : Nat → Module → Command Unit}
    (keeps : ∀ removed m, Keeps (told removed m))
    (answered : (m.remove entries).outcome = .ok (removed, pruned))
    (writable : shell.workspace.Writable manifest place) :
    (play (do
      let (removed, m) ← run (m.remove entries)
      rescue (discard (file (m.write (some manifest) false))) recover
      told removed m) shell).2.workspace =
        shell.workspace.withFile place pruned.manifestText.toUTF8 := by
  obtain ⟨middle, same, ran⟩ := play_run (m.remove entries) shell
  rw [answered] at ran
  rw [play_bind_of_ok _ ran]
  dsimp only
  have writable : middle.workspace.Writable manifest place := by rwa [same.workspace]
  obtain ⟨after, written, ends⟩ := play_file (Module.result_write writable pruned)
  have wrote : play (discard (file (pruned.write (some manifest) false))) middle = (.ok (), after) :=
    play_map_of_ok _ ends
  have rescued : play (rescue (discard (file (pruned.write (some manifest) false))) recover) middle =
      (.ok (), after) := by
    rw [play_rescue_of_not_failure recover (by rw [wrote]; nofun), wrote]
  rw [play_bind_of_ok _ rescued, (keeps removed pruned after).workspace, written.workspace,
    same.workspace]

/-- Removing entries rewrites the manifest, unless a backup is wanted and cannot be made. -/
theorem removeEntries_cases (backsUp : Bool)
    (answered : (m.remove entries).outcome = .ok (removed, pruned))
    (found : shell.workspace.nodeOf manifest = .ok (.file content))
    (plain : ∀ name ∈ manifest.parts, Path.IsPlain name) (ready : shell.workspace.Ready manifest) :
    ((backsUp = true ∧ Unsaved shell.workspace manifest) ∧
      (play (removeEntries m manifest entries backsUp) shell).2.workspace = shell.workspace) ∨
      shell.workspace.Rewritten (play (removeEntries m manifest entries backsUp) shell).2.workspace
        manifest backsUp pruned.manifestText := by
  obtain ⟨place, writable⟩ := writable_of_write found (ready.writes "")
  have told (removed : Nat) (m : Module) : Keeps (do
      tell .success s!"\nRemoved {removed} unused {dependencies removed} from {m.id}"
      let failed := entries.length - removed
      if failed ≠ 0 then
        let noun := if failed = 1 then "entry" else "entries"
        tell .warning s!"{failed} {noun} could not be removed; run with -v for details") :=
    .bind (keeps_tell _ _) fun _ => .ite (keeps_tell _ _) (.pure ())
  cases backsUp with
  | false =>
    have rewritten : (play (removeEntries m manifest entries false) shell).2.workspace =
        shell.workspace.withFile place pruned.manifestText.toUTF8 :=
      play_rewrite (recover manifest none) told answered writable
    rw [rewritten]
    exact Or.inr (rewritten_of_unsaved found _ writable.led)
  | true =>
    have readBack := parse_text_backupOf plain writable.filled ready.stamped
    rw [removeEntries, if_pos rfl]
    rcases play_backUp_cases found ready.vacant readBack with
      ⟨unsaved, stop, after, stops, same⟩ | ⟨beside, after, placed, made, same⟩
    · rw [play_bind_of_error _ (play_map_of_error some stops)]
      exact Or.inl ⟨⟨rfl, unsaved⟩, same⟩
    · have stillWritable : after.workspace.Writable manifest place := by
        rw [same]
        exact writable.withFile (ready.vacant beside placed)
      have rewritten := play_rewrite (recover manifest (some (shell.workspace.backupOf manifest)))
        told answered stillWritable
      rw [same] at rewritten
      rw [play_bind_of_ok _ (play_map_of_ok some made)]
      right
      rw [show (play _ after).2.workspace = _ from rewritten]
      exact rewritten_of_saved found _ writable ready.vacant placed

/-! ## The question -/

/-- The first of the lines that answers the question says yes, as an empty line does. -/
def Agrees (typed : List String) : Prop :=
  ∃ unfit line rest, typed = unfit ++ line :: rest ∧
    (∀ other ∈ unfit, other.isEmpty = false ∧ Text.folded other ≠ "y" ∧ Text.folded other ≠ "n") ∧
    (line.isEmpty = true ∨ Text.folded line = "y")

theorem agrees_cons {line : String} {rest : List String} : Agrees (line :: rest) ↔
    (line.isEmpty = true ∨ Text.folded line = "y") ∨
      (line.isEmpty = false ∧ Text.folded line ≠ "y" ∧ Text.folded line ≠ "n") ∧ Agrees rest := by
  constructor
  · rintro ⟨unfit, yes, later, split, refused, agreed⟩
    cases unfit with
    | nil =>
      cases split
      exact Or.inl agreed
    | cons first unfit =>
      cases split
      refine Or.inr ⟨refused _ List.mem_cons_self, unfit, yes, later, rfl, ?_, agreed⟩
      exact fun other member => refused other (List.mem_cons_of_mem _ member)
  · rintro (agreed | ⟨unanswered, unfit, yes, later, rfl, refused, agreed⟩)
    · exact ⟨[], line, rest, rfl, nofun, agreed⟩
    · refine ⟨line :: unfit, yes, later, rfl, ?_, agreed⟩
      exact List.forall_mem_cons.mpr ⟨unanswered, refused⟩

theorem find?_choice (line : String) :
    (["y", "n"].find? fun choice => Text.folded choice = Text.folded line) =
      if Text.folded line = "y" then some "y"
      else if Text.folded line = "n" then some "n" else none := by
  have yes : Text.folded "y" = "y" := by decide
  have no : Text.folded "n" = "n" := by decide
  simp only [List.find?_cons, List.find?_nil, yes, no, eq_comm]
  split <;> split <;> simp_all

theorem answerFrom_eq_yes_iff {question : String} {closed : Bool} {typed : List String} :
    (answerFrom question ["y", "n"] closed typed).1 = .chosen "y" ↔ Agrees typed := by
  induction typed with
  | nil =>
    constructor
    · intro chosen
      rw [answerFrom] at chosen
      cases closed <;> cases chosen
    · rintro ⟨unfit, line, rest, split, -⟩
      cases unfit <;> cases split
  | cons line rest ih =>
    rw [answerFrom, agrees_cons]
    by_cases empty : line.isEmpty = true
    · simp [empty]
    rw [if_neg empty, find?_choice]
    by_cases yes : Text.folded line = "y"
    · simp [yes]
    by_cases no : Text.folded line = "n"
    · simp [no, empty]
    · simpa [yes, no, empty] using ih

/-- A question is left without an answer, or its answer is the first line that is a choice. The workspace
is as it was. -/
theorem play_ask_cases (question : String) (choices : List String) (shell : Shell) :
    ∃ prompt after, after.workspace = shell.workspace ∧
      ((∃ stop, play (ask question choices) shell = (.error stop, after) ∧
        ∀ choice, (answerFrom prompt choices shell.closed shell.typed).1 ≠ .chosen choice) ∨
      ∃ choice, play (ask question choices) shell = (.ok choice, after) ∧
        (answerFrom prompt choices shell.closed shell.typed).1 = .chosen choice) := by
  have looked : play get shell = (.ok shell, shell) := rfl
  rw [ask, play_bind_of_ok _ looked]
  dsimp only
  generalize question ++ " (" ++ ", ".intercalate choices ++ ") [" ++ choices.head?.getD "" ++ "]: " =
    prompt
  cases answered : answerFrom prompt choices shell.closed shell.typed with
  | mk reply rest =>
    obtain ⟨shown, left⟩ := rest
    refine ⟨prompt, { shell with output := shell.output ++ shown, typed := left }, rfl, ?_⟩
    rw [answered]
    cases reply with
    | chosen choice => exact Or.inr ⟨choice, rfl, rfl⟩
    | unanswered => exact Or.inl ⟨_, rfl, nofun⟩
    | waiting => exact Or.inl ⟨_, rfl, nofun⟩

/-- The user is asked, and agrees or not; or the question has no answer. -/
theorem play_confirm_cases (count : Nat) (shell : Shell) :
    ∃ after, after.workspace = shell.workspace ∧
      ((Agrees shell.typed ∧ play (confirm count) shell = (.ok true, after)) ∨
      (¬ Agrees shell.typed ∧ (play (confirm count) shell = (.ok false, after) ∨
        ∃ stop, play (confirm count) shell = (.error stop, after)))) := by
  obtain ⟨prompt, after, same, ⟨stop, stops, unanswered⟩ | ⟨choice, answers, chosen⟩⟩ :=
    play_ask_cases s!"\nRemove {count} unused {dependencies count}?" ["y", "n"] shell
  · refine ⟨after, same, Or.inr ⟨fun agrees => ?_, Or.inr ⟨stop, play_bind_of_error _ stops⟩⟩⟩
    exact unanswered "y" (answerFrom_eq_yes_iff.mpr agrees)
  · refine ⟨after, same, ?_⟩
    have ends : play (confirm count) shell = (.ok (decide (choice = "y")), after) :=
      play_bind_of_ok _ answers
    rw [ends]
    by_cases yes : choice = "y"
    · rw [yes] at chosen ⊢
      exact Or.inl ⟨answerFrom_eq_yes_iff.mp chosen, rfl⟩
    · refine Or.inr ⟨fun agrees => yes ?_, Or.inl (by rw [decide_eq_false yes])⟩
      exact Reply.chosen.inj (chosen.symm.trans (answerFrom_eq_yes_iff.mpr agrees))

/-! ## One manifest -/

/-- What a request comes to find out about a module. -/
def Finds [Version.Casing] (w : Workspace) (config : Config) (request : Request) (m : Module)
    (findings : Findings) : Prop :=
  ∃ registry used,
    (Inputs.registry w (m.mark + 1) config request.registry request.snapshot).outcome = .ok registry ∧
      Inputs.usedPackages config request.usedPackages = .ok used ∧
        (Analysis.run m registry (Oracle.ofFile w used)).outcome = .ok findings

/-- What a run has found, and what it has been told, before it rewrites a manifest. -/
structure Announced [Version.Casing] (w : Workspace) (typed : List String) (config : Config)
    (request : Request) (m : Module) (findings : Findings) : Prop where
  loaded : (w.loadModule 0 request.manifest).outcome = .ok m
  identified : m.hasId = true
  analyzed : Finds w config request m findings
  unused : findings.unused ≠ []
  wet : switch? dryRunOption.key request.given = none
  agreed : (switch? yesOption.key request.given).isSome ∨ Agrees typed

/-- What may become of a workspace `w` when a request is made: nothing, or the manifest is rewritten as it
was announced. -/
inductive Effect [Version.Casing] (w : Workspace) (typed : List String) (config : Config)
    (request : Request) : Workspace → Prop
  | nothing : Effect w typed config request w
  | pruned {m pruned : Module} {findings : Findings} {removed : Nat} {after : Workspace}
      (announced : Announced w typed config request m findings)
      (answered : (m.remove findings.unused).outcome = .ok (removed, pruned))
      (rewritten : w.Rewritten after request.manifest (Caution.of config request.given).backup
        pruned.manifestText) : Effect w typed config request after

variable {config : Config} {request : Request} {findings : Findings}

theorem finds_of_analyzeModule [Version.Casing] {showsProgress : Bool} {after : Shell}
    (answers : play (analyzeModule config request m showsProgress) shell = (.ok findings, after)) :
    Finds shell.workspace config request m findings := by
  obtain ⟨registry, first, read, same, answers⟩ := (keeps_read _).answer_of_bind answers
  obtain ⟨used, second, found, same', answers⟩ := (keeps_ofOutcome _).answer_of_bind answers
  obtain ⟨looked, third, gets, -, answers⟩ := Keeps.get.answer_of_bind answers
  cases gets
  have sameWorkspace : second.workspace = shell.workspace := same'.workspace.trans same.workspace
  rw [sameWorkspace] at answers
  refine ⟨registry, used, answer_of_read read, answer_of_ofOutcome found, ?_⟩
  obtain ⟨third, answers⟩ := answer_of_guard answers
  obtain ⟨_, fourth, -, answers⟩ := answer_of_bind answers
  obtain ⟨fifth, answers⟩ := answer_of_guard answers
  exact answer_of_ofOutcome answers

theorem play_blank {page : Nat} (known : shell.screen.page = .ok page) :
    ∃ after, shell.SameInputs after ∧ play (display Console.Screen.blank) shell = (.ok (), after) := by
  have shows : shell.screen.blank = .ok "" := by
    rw [Console.Screen.blank, known]
    rfl
  exact play_display_of_ok _ shows (shell.screen.takesLineEnds "" (Or.inl rfl))

theorem play_finishedBar {page : Nat} (known : shell.screen.page = .ok page) :
    ∃ after, shell.SameInputs after ∧
      play (display Console.Screen.finishedBar) shell = (.ok (), after) := by
  have shows : shell.screen.finishedBar = .ok (if page = 0 then "" else "\n") := by
    rw [Console.Screen.finishedBar, known]
    rfl
  refine play_display_of_ok _ shows (shell.screen.takesLineEnds _ ?_)
  split
  · exact Or.inl rfl
  · exact Or.inr rfl

/-- Where a page is laid out for a table, one is laid out for the progress of an analysis. -/
theorem page_of_text {sheet : Console.Sheet} {screen : Console.Screen} {text : String}
    (filled : sheet.rows ≠ []) (shows : sheet.text screen = .ok text) :
    ∃ page, screen.page = .ok page := by
  cases known : screen.page with
  | ok page => exact ⟨page, rfl⟩
  | error fault =>
    have occupied : sheet.rows.isEmpty = false := by simpa using filled
    rw [Console.Sheet.text, occupied, known] at shows
    cases shows

theorem play_analyzeModule_of_finds [Version.Casing]
    (finds : Finds shell.workspace config request m findings) {page : Nat}
    (known : shell.screen.page = .ok page) (showsProgress : Bool) :
    ∃ after, shell.SameInputs after ∧
      play (analyzeModule config request m showsProgress) shell = (.ok findings, after) := by
  obtain ⟨registry, used, read, found, analyzed⟩ := finds
  obtain ⟨first, same, reads⟩ :
      ∃ after, shell.SameInputs after ∧ play (Command.read fun w => Inputs.registry w (m.mark + 1) config
        request.registry request.snapshot) shell = (.ok registry, after) := play_read_of_ok read
  have told : play (ofOutcome (Inputs.usedPackages config request.usedPackages)) first =
      (.ok used, first) := by
    rw [found]
    rfl
  have looked : play get first = (.ok first, first) := rfl
  rw [analyzeModule, play_bind_of_ok _ reads, play_bind_of_ok _ told, play_bind_of_ok _ looked,
    same.workspace]
  dsimp only
  rw [analyzed]
  let records := (Analysis.run m registry (Oracle.ofFile shell.workspace used)).records
  cases showsProgress with
  | false =>
    obtain ⟨after, same', logged⟩ := play_logAll records first
    exact ⟨after, same.trans same', play_bind_of_ok _ logged⟩
  | true =>
    rw [← same.screen] at known
    obtain ⟨begun, same', begins⟩ := play_blank known
    replace same := same.trans same'
    rw [← same'.screen] at known
    obtain ⟨noted, same', logged⟩ := play_logAll records begun
    replace same := same.trans same'
    rw [← same'.screen] at known
    obtain ⟨after, same', finishes⟩ := play_finishedBar known
    refine ⟨after, same.trans same', ?_⟩
    rw [if_pos rfl, play_bind_of_ok _ begins, play_bind_of_ok _ logged, if_pos rfl,
      play_bind_of_ok _ finishes]
    rfl

variable (plain : ∀ name ∈ request.manifest.parts, Path.IsPlain name)

include plain

/-- The last step, once everything is announced. -/
theorem effect_removeEntries [Version.Casing] {w : Workspace} {typed : List String}
    (ready : w.Ready request.manifest)
    (announced : Announced w typed config request m findings) (same : shell.workspace = w) :
    Effect w typed config request (play (removeEntries m request.manifest findings.unused
      (Caution.of config request.given).backup) shell).2.workspace := by
  subst same
  obtain ⟨content, found⟩ := file_of_loadModule announced.loaded
  obtain ⟨removed, pruned, answered, -⟩ := m.remove_keeps findings.unused
  rcases removeEntries_cases (Caution.of config request.given).backup answered found plain ready with
    ⟨-, unchanged⟩ | rewritten
  · rw [unchanged]
    exact .nothing
  · exact .pruned announced answered rewritten

/-- A request does nothing, or what it has announced. -/
theorem effect_pruneManifest [Version.Casing] (config : Config)
    (ready : shell.workspace.Ready request.manifest) :
    Effect shell.workspace shell.typed config request
      (play (pruneManifest config request (Caution.of config request.given)) shell).2.workspace := by
  have nothing {later : Shell} (same : shell.SameInputs later) :
      Effect shell.workspace shell.typed config request later.workspace := by
    rw [same.workspace]
    exact .nothing
  refine (keeps_note _ _ _).leaves_bind .nothing fun _ noted _ same => ?_
  refine (keeps_readManifest request).leaves_bind (nothing same) fun m read reads same' => ?_
  have loaded : (shell.workspace.loadModule 0 request.manifest).outcome = .ok m := by
    rw [← same.workspace]
    exact answer_of_read reads
  replace same := same.trans same'
  split
  case isFalse => exact (keeps_tell _ _).leaves (nothing same)
  case isTrue identified =>
  refine (keeps_analyzeModule _ _ _ _).leaves_bind (nothing same) fun findings analyzed analyzes same' => ?_
  have finds := finds_of_analyzeModule analyzes
  rw [same.workspace] at finds
  replace same := same.trans same'
  split
  case isFalse => exact (keeps_tell _ _).leaves (nothing same)
  case isTrue unused =>
  refine (keeps_showPlan _ _).leaves_bind (nothing same) fun _ shown _ same' => ?_
  replace same := same.trans same'
  split
  case isTrue => exact (keeps_tell _ _).leaves (nothing same)
  case isFalse wet =>
  have announced (agreed : (switch? yesOption.key request.given).isSome ∨ Agrees shell.typed) :
      Announced shell.workspace shell.typed config request m findings := by
    refine ⟨loaded, identified, finds, ?_, ?_, agreed⟩
    · simpa [Findings.hasUnused] using unused
    · simpa [Caution.of] using wet
  split
  case isTrue confirmed =>
    exact effect_removeEntries plain ready (announced (Or.inl confirmed)) same.workspace
  case isFalse =>
  obtain ⟨answered, kept, ⟨agrees, answers⟩ | ⟨-, answers | ⟨stop, stops⟩⟩⟩ :=
    play_confirm_cases findings.unused.length shown
  · rw [play_bind_of_ok _ answers]
    rw [same.typed] at agrees
    exact effect_removeEntries plain ready (announced (Or.inr agrees)) (kept.trans same.workspace)
  · rw [play_bind_of_ok _ answers]
    refine (keeps_note _ _ _).leaves ?_
    rw [kept]
    exact nothing same
  · rw [play_bind_of_error _ stops, kept]
    exact nothing same

/-- What is announced is done, if the plan can be shown and the backup can be made. -/
theorem rewritten_pruneManifest [Version.Casing] (ready : shell.workspace.Ready request.manifest)
    (announced : Announced shell.workspace shell.typed config request m findings) {plan : String}
    (shows : (entrySheet "Prune Plan" none findings.unused).text shell.screen = .ok plan)
    (taken : shell.screen.refused? plan = none)
    (saved : (Caution.of config request.given).backup = true →
      ¬ Unsaved shell.workspace request.manifest)
    (answered : (m.remove findings.unused).outcome = .ok (removed, pruned)) :
    shell.workspace.Rewritten
      (play (pruneManifest config request (Caution.of config request.given)) shell).2.workspace
      request.manifest (Caution.of config request.given).backup pruned.manifestText := by
  obtain ⟨content, found⟩ := file_of_loadModule announced.loaded
  -- The last step, in a shell that has the same workspace.
  have removes {later : Shell} (same : later.workspace = shell.workspace) :
      shell.workspace.Rewritten (play (removeEntries m request.manifest findings.unused
        (Caution.of config request.given).backup) later).2.workspace
        request.manifest (Caution.of config request.given).backup pruned.manifestText := by
    rw [← same] at found ready saved ⊢
    rcases removeEntries_cases (Caution.of config request.given).backup answered found plain ready with
      ⟨⟨backsUp, unsaved⟩, -⟩ | rewritten
    · exact absurd unsaved (saved backsUp)
    · exact rewritten
  obtain ⟨noted, same, notes⟩ := play_note .info .prune s!"Pruning {request.manifest}..." shell
  have loaded : (noted.workspace.loadModule 0 request.manifest).outcome = .ok m := by
    rw [same.workspace]
    exact announced.loaded
  obtain ⟨read, same', reads⟩ :
      ∃ after, noted.SameInputs after ∧ play (readManifest request) noted = (.ok m, after) :=
    play_read_of_ok loaded
  replace same := same.trans same'
  have finds : Finds read.workspace config request m findings := by
    rw [same.workspace]
    exact announced.analyzed
  obtain ⟨page, known⟩ : ∃ page, read.screen.page = .ok page := by
    rw [same.screen]
    exact page_of_text (by simpa [entrySheet] using announced.unused) shows
  obtain ⟨analyzed, same', analyzes⟩ := play_analyzeModule_of_finds finds known true
  replace same := same.trans same'
  have wet : (Caution.of config request.given).dryRun = false := by simp [Caution.of, announced.wet]
  have unused : findings.hasUnused = true := by simp [Findings.hasUnused, announced.unused]
  rw [← same.screen] at shows taken
  obtain ⟨shown, same', showed⟩ :
      ∃ after, analyzed.SameInputs after ∧
        play (showPlan false findings.unused) analyzed = (.ok (), after) :=
    play_display_of_ok (fun screen => (entrySheet "Prune Plan" none findings.unused).text screen)
      shows taken
  replace same := same.trans same'
  rw [pruneManifest, play_bind_of_ok _ notes, play_bind_of_ok _ reads, if_pos announced.identified,
    play_bind_of_ok _ analyzes, if_pos unused, wet, play_bind_of_ok _ showed,
    if_neg Bool.false_ne_true]
  split
  case isTrue => exact removes same.workspace
  case isFalse unconfirmed =>
  have agrees : Agrees shown.typed := by
    rw [same.typed]
    exact announced.agreed.resolve_left unconfirmed
  obtain ⟨after, kept, ⟨-, answers⟩ | ⟨disagrees, -⟩⟩ :=
    play_confirm_cases findings.unused.length shown
  · rw [play_bind_of_ok _ answers]
    exact removes (kept.trans same.workspace)
  · exact absurd agrees disagrees

end Command

end Pruning
