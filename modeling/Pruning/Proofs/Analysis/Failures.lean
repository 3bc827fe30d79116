import Pruning.Proofs.Analysis.Classification
import Pruning.Registry.Sources

/-!
# How an analysis fails

Of the documented failures, a cancellation comes from the monitor and a fault from the oracle. But an
analysis also reads export headers, its own and those of the modules that its requirements show, and no
loader has looked into them before. It ends in a documented way, whatever oracle and monitor it is given,
exactly when all these headers are well formed (`run_documented_iff`).
-/

namespace Pruning

/-- A header of exports that cannot be told is malformed. -/
theorem Module.exports_of_not_readable {m : Module} (unreadable : ¬ m.Readable) :
    ∃ refusal, m.exports = .error (.manifest refusal) := by
  cases told : m.exports with
  | ok names => exact absurd ⟨names, told⟩ unreadable
  | error failure =>
    rw [exports] at told
    split at told
    case h_1 value _ =>
      cases names : Manifest.namesOf (some value) (some Header.exportPackage) with
      | ok names' =>
        rw [names] at told
        cases told
      | error refusal =>
        rw [names] at told
        cases told
        exact ⟨refusal, rfl⟩
    case h_2 => cases told

/-- Where no module exports a used package, the exports of every module are read. -/
theorem exportNothingUsed_of_not_readable {used : PackageSet} {modules : List Module}
    (idle : ∀ n ∈ modules, ∀ package ∈ n.exported, package ∉ used)
    (unreadable : ∃ n ∈ modules, ¬ n.Readable) :
    ∃ refusal, exportNothingUsed used modules = .error (.manifest refusal) := by
  induction modules with
  | nil =>
    obtain ⟨_, member, _⟩ := unreadable
    cases member
  | cons first rest ih =>
    by_cases readable : first.Readable
    · obtain ⟨names, told⟩ := readable
      have nothing : names.any used.contains = false := by
        simpa [Module.exported_eq told] using idle first List.mem_cons_self
      have unreadableRest : ∃ n ∈ rest, ¬ n.Readable := by
        obtain ⟨n, member, unreadable⟩ := unreadable
        rcases List.mem_cons.mp member with rfl | later
        · exact absurd ⟨names, told⟩ unreadable
        · exact ⟨n, later, unreadable⟩
      obtain ⟨refusal, fails⟩ := ih (fun n later => idle n (List.mem_cons_of_mem _ later)) unreadableRest
      refine ⟨refusal, ?_⟩
      rw [exportNothingUsed, told, ← fails]
      change (if names.any used.contains then _ else _) = _
      rw [nothing]
      rfl
    · obtain ⟨refusal, fails⟩ := Module.exports_of_not_readable readable
      refine ⟨refusal, ?_⟩
      rw [exportNothingUsed, fails]
      rfl

namespace Analysis

variable {m : Module} {registry : Registry} {used : PackageSet}

/-- An outcome that is documented: findings, a cancellation, or a fault of the oracle. -/
inductive Documented : Except Failure Findings → Prop
  | findings (findings : Findings) : Documented (.ok findings)
  | cancelled (message : String) (moduleId : Option String) :
    Documented (.error (.cancelled message moduleId))
  | oracle (fault : OracleFault) : Documented (.error (.oracle fault))

/-! ## The search -/

theorem classifyRequires_of_not_readable {requires : List ModuleImport}
    (idle : ∀ required ∈ requires, ¬ ∃ package ∈ used, registry.Shows required.id package)
    (unreadable : ∃ required ∈ requires,
      ∃ n ∈ registry.visible (.ofRegistry registry) required.id, ¬ n.Readable)
    (classified : Classified) :
    ∃ refusal,
      (classifyRequires m used registry (.ofRegistry registry) classified requires).outcome =
        .error (.manifest refusal) := by
  induction requires generalizing classified with
  | nil =>
    obtain ⟨_, member, _⟩ := unreadable
    cases member
  | cons required rest ih =>
    rw [classifyRequires, poll, Script.outcome_event_bind]
    by_cases readable : ∀ n ∈ registry.visible (.ofRegistry registry) required.id, n.Readable
    · have unreadableRest : ∃ required ∈ rest,
          ∃ n ∈ registry.visible (.ofRegistry registry) required.id, ¬ n.Readable := by
        obtain ⟨other, member, n, shown, unreadable⟩ := unreadable
        rcases List.mem_cons.mp member with rfl | later
        · exact absurd (readable n shown) unreadable
        · exact ⟨other, later, n, shown, unreadable⟩
      rw [ModuleImport.isUnused_eq readable, Script.outcome_ofOutcome_bind_ok]
      dsimp only
      rw [Script.outcome_event_bind, tellCount, Script.outcome_event_bind]
      exact ih (fun other later => idle other (List.mem_cons_of_mem _ later)) unreadableRest _
    · obtain ⟨refusal, fails⟩ := exportNothingUsed_of_not_readable
        (fun n shown package exports isUsed =>
          idle required List.mem_cons_self ⟨package, isUsed, n, shown, exports⟩)
        (by simpa using readable)
      refine ⟨refusal, Script.outcome_bind_of_error _ ?_⟩
      exact fails

theorem search_of_not_legible (illegible : ¬ m.Legible registry)
    (idle : ∀ required ∈ m.requires, ¬ ∃ package ∈ used, registry.Shows required.id package) :
    ∃ refusal, (search m registry used).outcome = .error (.manifest refusal) := by
  rw [search]
  dsimp only
  rw [Script.outcome_event_bind]
  by_cases own : m.Readable
  · have unreadable : ∃ required ∈ m.requires,
        ∃ n ∈ registry.visible (.ofRegistry registry) required.id, ¬ n.Readable := by
      by_contra allReadable
      refine illegible ⟨own, fun required declared n shown => ?_⟩
      by_contra unreadable
      exact allReadable ⟨required, declared, n, shown, unreadable⟩
    obtain ⟨names, told⟩ := own
    obtain ⟨refusal, fails⟩ := classifyRequires_of_not_readable (m := m) idle unreadable ⟨[], [], []⟩
    refine ⟨refusal, ?_⟩
    rw [told, Script.outcome_ofOutcome_bind_ok]
    exact Script.outcome_bind_of_error _ fails
  · obtain ⟨refusal, fails⟩ := Module.exports_of_not_readable own
    refine ⟨refusal, Script.outcome_bind_of_error _ ?_⟩
    exact fails

/-! ## The analysis -/

theorem documented_oracleFailure (moduleId : String) (failure : Failure) :
    Documented (.error (oracleFailure moduleId failure)) := by
  cases failure with
  | cancelled message owner => exact .cancelled message owner
  | interrupted => exact .cancelled _ _
  | _ => exact .oracle _

theorem documented_run_of_legible (oracle : Oracle) (legible : m.hasId → m.Legible registry) :
    Documented (run m registry oracle).outcome := by
  by_cases hasId : m.hasId = true
  · cases answers : (oracle.consult m).outcome with
    | error failure =>
      have fails : ((oracle.consult m).mapFailure (oracleFailure m.id)).outcome =
          .error (oracleFailure m.id failure) := by
        rw [Script.mapFailure, answers]
        rfl
      rw [run, if_neg (by simp [hasId]), poll, Script.outcome_event_bind,
        Script.outcome_bind_of_error _ fails]
      exact documented_oracleFailure m.id failure
    | ok used =>
      rw [run_outcome_of_legible hasId (legible hasId) answers]
      exact .findings _
  · rw [run, if_pos (by simpa using hasId)]
    exact .findings _

theorem run_of_not_legible (hasId : m.hasId) (illegible : ¬ m.Legible registry)
    (idle : ∀ required ∈ m.requires, ¬ ∃ package ∈ used, registry.Shows required.id package) :
    ∃ refusal, (run m registry (.fixed used)).outcome = .error (.manifest refusal) := by
  obtain ⟨refusal, fails⟩ := search_of_not_legible illegible idle
  have consulted : (((Oracle.fixed used).consult m).mapFailure (oracleFailure m.id)).outcome =
      .ok used :=
    rfl
  refine ⟨refusal, ?_⟩
  rw [run, if_neg (by simp [hasId]), poll, Script.outcome_event_bind,
    Script.outcome_bind_of_ok _ consulted, Script.outcome_note_bind]
  exact Script.outcome_bind_of_error _ fails

/-- An analysis ends in a documented way with every oracle and every monitor iff the exports that it may
read can be told. A module without an id is not analyzed, and nothing of it is read. -/
theorem run_documented_iff :
    (∀ (oracle : Oracle) (monitor : Monitor),
      Documented (monitor.play (run m registry oracle)).1.outcome) ↔
      (m.hasId → m.Legible registry) := by
  constructor
  · intro documented hasId
    by_contra illegible
    -- An oracle that knows of no used package makes the analysis read everything.
    have idle : ∀ required ∈ m.requires,
        ¬ ∃ package ∈ ([] : PackageSet), registry.Shows required.id package := by
      simp
    obtain ⟨refusal, fails⟩ := run_of_not_legible hasId illegible idle
    have silently := documented (.fixed []) .silent
    rw [Monitor.play_of_idle Monitor.idle_silent, fails] at silently
    cases silently
  · intro legible oracle monitor
    have ends := documented_run_of_legible oracle legible
    rcases Monitor.playEvents_eq_or_cancelled (run m registry oracle).outcome []
      (run m registry oracle).events monitor with whole | ⟨owner, cancelled⟩
    · rw [Monitor.play, whole]
      exact ends
    · rw [Monitor.play, cancelled]
      exact .cancelled _ _

/-- A shelf with two manifests: a client that requires a library, and the library, whose exports end
inside quotes. -/
def shelf : Workspace :=
  { current := []
    folders := [["client"], ["client", "META-INF"], ["plugins"], ["plugins", "library"],
      ["plugins", "library", "META-INF"]]
    files := [
      (["client", "META-INF", "MANIFEST.MF"],
        "Bundle-SymbolicName: client\nRequire-Bundle: library\n".toUTF8),
      (["plugins", "library", "META-INF", "MANIFEST.MF"],
        "Bundle-SymbolicName: library\nExport-Package: \"library.api\n".toUTF8)]
    stamp := ""
    salt := "" }

/-- The manifest of the client on the shelf. -/
def clientManifest : Path :=
  ⟨.root, ["client", "META-INF", "MANIFEST.MF"]⟩

/-- The client, as it is loaded. -/
def clientOnShelf : Module :=
  ⟨0, "client", "0.0.0", [.plain ⟨0, 0⟩ "library" false], none,
    [("Bundle-SymbolicName", "client"), ("Require-Bundle", "library")], none, some clientManifest,
    "\n"⟩

/-- The library, as it is loaded. -/
def libraryOnShelf : Module :=
  ⟨1, "library", "0.0.0", [], none,
    [("Bundle-SymbolicName", "library"), ("Export-Package", "\"library.api")], none,
    some ⟨.root, ["plugins", "library", "META-INF", "MANIFEST.MF"]⟩, "\n"⟩

/-- Both manifests are loaded without complaint; the analysis of the client meets the open quote. -/
theorem run_undocumented_shelf :
    letI := Version.Casing.ascii
    (shelf.loadModule 0 clientManifest).outcome = .ok clientOnShelf ∧
      (Registry.ofPaths shelf 1 [⟨.root, ["plugins"]⟩]).outcome =
        .ok ⟨[("library", [libraryOnShelf])]⟩ ∧
      ¬ Documented (Monitor.silent.play
        (run clientOnShelf ⟨[("library", [libraryOnShelf])]⟩ (.fixed ["library.api"]))).1.outcome := by
  refine ⟨by decide +kernel, by decide +kernel, ?_⟩
  have refuses : ¬ libraryOnShelf.Readable := by
    rintro ⟨names, told⟩
    have malformed : libraryOnShelf.exports.isOk = false := by decide
    rw [told] at malformed
    cases malformed
  have nothing : libraryOnShelf.exported = [] := by decide
  have identified : Registry.Identified ⟨[("library", [libraryOnShelf])]⟩ := by
    unfold Registry.Identified
    decide
  have illegible : ¬ clientOnShelf.Legible ⟨[("library", [libraryOnShelf])]⟩ := fun legible =>
    refuses (legible.shown (.plain ⟨0, 0⟩ "library" false) (by decide) _
      ((Registry.mem_visible_iff identified).mpr (Or.inl List.mem_cons_self)))
  have idle : ∀ required ∈ clientOnShelf.requires, ¬ ∃ package ∈ ["library.api"],
      Registry.Shows ⟨[("library", [libraryOnShelf])]⟩ required.id package := by
    rintro required _ ⟨package, _, n, shown, exports⟩
    obtain rfl := List.mem_singleton.mp (Registry.mem_modules_of_visible shown)
    rw [nothing] at exports
    cases exports
  obtain ⟨refusal, fails⟩ := run_of_not_legible rfl illegible idle
  rw [Monitor.play_of_idle Monitor.idle_silent, fails]
  rintro ⟨⟩

end Analysis

end Pruning
