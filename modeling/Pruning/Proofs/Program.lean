import Pruning.Proofs.Analysis.Classification
import Pruning.Proofs.Command.Prune

/-!
# What a run of the program changes

Until a run prunes a manifest it only looks: it reads its arguments, sets up the log and loads the
configuration (`Command.askedFor`). So a run changes nothing, or it has been asked to prune a manifest
(`program_cases`); then it leaves the workspace as `pruneManifest` leaves it (`workspace_program`), since
neither the messages that follow nor the exit code change it.
-/

namespace Pruning

namespace Command

variable [Version.Casing] {args : List String} {shell : Shell} {config : Config} {request : Request}

/-- A run leaves the workspace as it was, or it was asked to prune a manifest. -/
theorem program_cases (args : List String) (shell : Shell) :
    (play (program args) shell).2.workspace = shell.workspace ∨
      ∃ config request, requestFor? .prune args shell = some (config, request) := by
  let P (after : Workspace) : Prop :=
    after = shell.workspace ∨ ∃ config request, requestFor? .prune args shell = some (config, request)
  have nothing {later : Shell} (same : shell.SameInputs later) : P later.workspace :=
    Or.inl same.workspace
  change P (play (program args) shell).2.workspace
  refine (keeps_readPreferences args).leaves_bind (P := P) (nothing (.refl shell))
    fun found prepared reads same => ?_
  obtain ⟨preferences, words⟩ := found
  cases words with
  | nil => exact (keeps_refuse _ _).leaves (P := P) (nothing same)
  | cons name rest =>
  dsimp only
  cases named : Scope.named? name with
  | none =>
    have misspelled : Keeps (do
        if isOption name then discard (readPreferences (name :: rest))
        refuse .program (.unknownCommand name (Text.guesses name (Scope.commands.map Scope.name))) :
          Command Unit) :=
      .guard (.discard (keeps_readPreferences _)) fun _ => keeps_refuse _ _
    exact misspelled.leaves (P := P) (nothing same)
  | some command =>
  refine (keeps_setUpLog _).leaves_bind (P := P) (nothing same) fun _ logged logs same' => ?_
  replace same := same.trans same'
  refine (keeps_loadConfig _).leaves_bind (P := P) (nothing same) fun config loaded loads same' => ?_
  replace same := same.trans same'
  refine (keeps_notePreferences _ _).leaves_bind (P := P) (nothing same) fun _ noted notes same' => ?_
  replace same := same.trans same'
  cases command with
  | analyze => exact (keeps_analyze _ _).leaves (P := P) (nothing same)
  | program => exact nothing same
  | prune =>
  refine (keeps_readRequest _ _).leaves_bind (P := P) (nothing same) fun request after asks _ => ?_
  have answers : play (askedFor .prune args) shell = (.ok (some (config, request)), after) := by
    rw [askedFor, play_bind_of_ok _ reads]
    dsimp only
    rw [if_pos named, play_bind_of_ok _ logs, play_bind_of_ok _ loads, play_bind_of_ok _ notes,
      play_bind_of_ok _ asks]
    rfl
  exact Or.inr ⟨config, request, by rw [requestFor?, answers]⟩

theorem workspace_prune {args : List String} {read : Shell}
    (asks : play (readRequest .prune args) shell = (.ok request, read)) :
    (play (prune config args) shell).2.workspace =
      (play (pruneManifest config request (Caution.of config request.given)) read).2.workspace := by
  have kept : (play (pruneManifest config request (Caution.of config request.given)) read).2.SameInputs
      (play (rescue
        (pruneManifest config request (Caution.of config request.given) >>= fun _ => exit 0)
        (giveUp .prune (Scope.name .prune))) read).2 :=
    (sameInputs_bind (fun _ => .exit 0) read).trans
      (sameInputs_rescue (fun failure => keeps_giveUp _ _ failure) read)
  rw [prune, play_bind_of_ok _ asks]
  exact kept.workspace

/-- A run that was asked to prune a manifest leaves the workspace as pruning the manifest leaves it. -/
theorem workspace_program (asked : requestFor? .prune args shell = some (config, request)) :
    ∃ ready, shell.SameInputs ready ∧ (∀ name ∈ request.manifest.parts, Path.IsPlain name) ∧
      (play (program args) shell).2.workspace =
        (play (pruneManifest config request (Caution.of config request.given)) ready).2.workspace := by
  obtain ⟨words, prepared, after, same, same', asks, plays⟩ := play_program_of_asked asked
  refine ⟨after, same.trans same', ?_, ?_⟩
  · obtain ⟨typed, manifest⟩ := yields_readRequest _ _ _ _ _ asks
    rw [manifest]
    exact fun name held => Path.isPlain_of_mem_parse held
  · rw [plays]
    exact workspace_prune asks

end Command

open Command

section Runs

variable [Version.Casing] {args : List String} {shell : Shell}

theorem workspace_runProgram (args : List String) (shell : Shell) :
    (runProgram args shell).2.workspace = (play (program args) shell).2.workspace := by
  have same : (play (program args) shell).2.SameInputs
      (play (rescue (program args) tellFailure) shell).2 :=
    sameInputs_rescue keeps_tellFailure shell
  rw [← same.workspace]
  cases ends : play (rescue (program args) tellFailure) shell with
  | mk stop after =>
    have ends' : StateT.run (ExceptT.run (rescue (program args) tellFailure)) shell = (stop, after) :=
      ends
    rw [runProgram, ends']
    match stop with
    | .ok _ => rfl
    | .error (.exit _) => rfl
    | .error (.failure _) => rfl
    | .error .waiting => rfl
    | .error (.mute _) => rfl

/-- A run that was asked to prune a manifest rewrites it, once it has announced that, if the plan can be
shown and the backup can be made. -/
theorem runProgram_rewrites {config : Config} {request : Request} {m pruned : Module}
    {findings : Findings} {removed : Nat} {plan : String}
    (asked : requestFor? .prune args shell = some (config, request))
    (ready : shell.workspace.Ready request.manifest)
    (announced : Announced shell.workspace shell.typed config request m findings)
    (shows : (entrySheet "Prune Plan" none findings.unused).text shell.screen = .ok plan)
    (taken : shell.screen.refused? plan = none)
    (saved : (Caution.of config request.given).backup = true →
      ¬ Unsaved shell.workspace request.manifest)
    (answered : (m.remove findings.unused).outcome = .ok (removed, pruned)) :
    shell.workspace.Rewritten (runProgram args shell).2.workspace request.manifest
      (Caution.of config request.given).backup pruned.manifestText := by
  obtain ⟨after, same, plain, leaves⟩ := workspace_program asked
  rw [workspace_runProgram, leaves]
  rw [← same.workspace, ← same.typed] at announced
  rw [← same.workspace] at ready saved ⊢
  rw [← same.screen] at shows taken
  exact rewritten_pruneManifest plain ready announced shows taken saved answered

/-- A run leaves the workspace as it was, or it prunes the manifest that it was asked to prune. -/
theorem runProgram_effect (args : List String) (shell : Shell)
    (ready : ∀ config request, requestFor? .prune args shell = some (config, request) →
      shell.workspace.Ready request.manifest) :
    (runProgram args shell).2.workspace = shell.workspace ∨
      ∃ config request, requestFor? .prune args shell = some (config, request) ∧
        Effect shell.workspace shell.typed config request (runProgram args shell).2.workspace := by
  rw [workspace_runProgram]
  rcases program_cases args shell with unchanged | ⟨config, request, asked⟩
  · exact Or.inl unchanged
  · obtain ⟨after, same, plain, leaves⟩ := workspace_program asked
    have readyAfter : after.workspace.Ready request.manifest := by
      rw [same.workspace]
      exact ready config request asked
    have effect := effect_pruneManifest plain config readyAfter
    rw [same.workspace, same.typed, ← leaves] at effect
    exact Or.inr ⟨config, request, asked, effect⟩

end Runs

/-! ## A desk -/

section Desk

attribute [local instance] Version.Casing.ascii

/-- A desk with two manifests: a client that imports a package, and the library. -/
def desk : Workspace :=
  { current := []
    folders := [["client"], ["client", "META-INF"], ["plugins"], ["plugins", "library"],
      ["plugins", "library", "META-INF"]]
    files := [
      (["client", "META-INF", "MANIFEST.MF"],
        "Bundle-SymbolicName: client\nImport-Package: library.api\n".toUTF8),
      (["plugins", "library", "META-INF", "MANIFEST.MF"], "Bundle-SymbolicName: library\n".toUTF8),
      (["used.txt"], "".toUTF8)]
    stamp := "20240101_120000"
    salt := "x" }

/-- The request to prune the client, which uses nothing. -/
def deskRequest : Request where
  manifest := ⟨.relative, ["client", "META-INF", "MANIFEST.MF"]⟩
  registry := [⟨.relative, ["plugins"]⟩]
  snapshot := none
  usedPackages := some ⟨.relative, ["used.txt"]⟩
  given := [.value "--registry" "plugins", .value "--used-packages" "used.txt", .switch "--yes" true]

/-- The arguments of this request. -/
def deskArgs : List String :=
  ["prune", "client/META-INF/MANIFEST.MF", "-r", "plugins", "-u", "used.txt", "--yes"]

/-- The module of the client, with what it imports. -/
def clientOnDesk (imports : List PackageImport) : Module :=
  ⟨0, "client", "0.0.0", [], some imports,
    [("Bundle-SymbolicName", "client"), ("Import-Package", "library.api")], none,
    some deskRequest.manifest, "\n"⟩

/-- The import of the client. -/
def importedOnDesk : PackageImport :=
  ⟨⟨0, 0⟩, "library.api", [], []⟩

/-- The registry of the library. -/
def registryOnDesk : Registry :=
  ⟨[("library", [⟨1, "library", "0.0.0", [], none, [("Bundle-SymbolicName", "library")], none,
    some ⟨.root, ["plugins", "library", "META-INF", "MANIFEST.MF"]⟩, "\n"⟩])]⟩

theorem ready_desk : desk.Ready deskRequest.manifest := by
  have writable : desk.Writable deskRequest.manifest ["client", "META-INF", "MANIFEST.MF"] := by
    refine ⟨by decide, by decide, by decide +kernel, nofun, ⟨["client", "META-INF"], ?_⟩,
      ["client", "META-INF", ".MANIFEST.MF.x.tmp"], ?_⟩
    · decide +kernel
    · decide +kernel
  have beside : desk.placeOf (desk.backupOf deskRequest.manifest) =
      .ok ["client", "META-INF", "MANIFEST.20240101_120000.backup.MF"] := by decide +kernel
  refine ⟨fun text => by rw [writable.result_write], fun place placed => ?_, by decide⟩
  rw [beside] at placed
  cases placed
  decide +kernel

theorem announced_desk (typed : List String) :
    Announced desk typed .default deskRequest (clientOnDesk [importedOnDesk])
      ⟨"client", [.packageImport importedOnDesk], [], 1⟩ := by
  have consulted : ((Oracle.ofFile desk ⟨.relative, ["used.txt"]⟩).consult
      (clientOnDesk [importedOnDesk])).outcome = .ok [] := by decide +kernel
  have readable : registryOnDesk.Readable := by
    intro m member
    obtain rfl := List.mem_singleton.mp member
    exact ⟨[], by decide⟩
  have reports : Analysis.reported (clientOnDesk [importedOnDesk]) registryOnDesk [] =
      [.packageImport importedOnDesk] := by
    have exported : (clientOnDesk [importedOnDesk]).exported = [] := by decide
    have idle : (ReexportGraph.ofRegistry registryOnDesk).contracted [] = [] := by
      refine List.eq_nil_iff_forall_not_mem.mpr fun required contracted => ?_
      obtain ⟨id, found, -⟩ := ReexportGraph.mem_contracted_iff.mp contracted
      cases found
    rw [Analysis.reported, Analysis.found, exported]
    change List.filter _ (List.filter _ (_ ++ (_ ++ List.map _ (ReexportGraph.contracted _ [])))) = _
    rw [idle]
    rfl
  have analyzed := Analysis.run_outcome rfl ⟨[], by decide⟩ readable consulted
  rw [reports] at analyzed
  have registered : (Inputs.registry desk 1 (some .default) deskRequest.registry none).outcome =
      .ok registryOnDesk := by decide +kernel
  have loaded : (desk.loadModule 0 deskRequest.manifest).outcome =
      .ok (clientOnDesk [importedOnDesk]) := by decide +kernel
  exact {
    loaded
    identified := rfl
    analyzed := ⟨registryOnDesk, ⟨.relative, ["used.txt"]⟩, registered, rfl, analyzed⟩
    unused := List.cons_ne_nil _ _
    wet := rfl
    agreed := Or.inl rfl }

/-- The client is pruned: its import is gone, and what the manifest held is kept beside it. -/
theorem runProgram_effect_desk :
    let shell := Shell.start desk [("COLUMNS", "0")] "12:00:00"
    let after := (runProgram deskArgs shell).2.workspace
    (∀ config request, requestFor? .prune deskArgs shell = some (config, request) →
      desk.Ready request.manifest) ∧
    (after = desk ∨ ∃ config request, requestFor? .prune deskArgs shell = some (config, request) ∧
      Effect desk [] config request after) ∧
    desk.Rewritten after deskRequest.manifest true "Bundle-SymbolicName: client\n" := by
  intro shell after
  have asked : requestFor? .prune deskArgs shell = some (.default, deskRequest) := by decide +kernel
  have ready : ∀ config request, requestFor? .prune deskArgs shell = some (config, request) →
      desk.Ready request.manifest := by
    intro config request asked'
    rw [asked] at asked'
    cases asked'
    exact ready_desk
  have saved : ¬ Unsaved desk deskRequest.manifest := by
    have made : ((Workspace.backUp deskRequest.manifest).result desk).1.isOk = true := by
      decide +kernel
    rintro ⟨failure, fails⟩
    rw [fails] at made
    cases made
  have answered : ((clientOnDesk [importedOnDesk]).remove [.packageImport importedOnDesk]).outcome =
      .ok (1, clientOnDesk []) := by decide +kernel
  have written : (clientOnDesk []).manifestText = "Bundle-SymbolicName: client\n" := by decide +kernel
  have rewritten : desk.Rewritten after deskRequest.manifest true (clientOnDesk []).manifestText :=
    runProgram_rewrites asked ready_desk (announced_desk _) rfl rfl (fun _ => saved) answered
  rw [written] at rewritten
  exact ⟨ready, runProgram_effect deskArgs shell ready, rewritten⟩

end Desk

end Pruning
