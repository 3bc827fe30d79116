import Pruning.Analysis
import Pruning.Proofs.Reexport.Contraction
import Pruning.Proofs.Script
import Pruning.Proofs.Visibility

/-!
# What the parts of an analysis answer

A requirement counts as used when it serves: when some module it makes visible exports a used package.
Where all exports can be told no part of an analysis fails, and each part answers with a plain list:
`search_outcome` puts the lists together into the entries that are found.
-/

namespace Pruning

/-- Whether a requirement of `id` makes some used package visible. -/
def Registry.serves (registry : Registry) (used : PackageSet) (id : String) : Bool :=
  (registry.visible (.ofRegistry registry) id).any fun m => m.exported.any used.contains

theorem Registry.serves_iff {registry : Registry} {used : PackageSet} {id : String} :
    registry.serves used id = true ↔ ∃ package ∈ used, registry.Shows id package := by
  simp only [serves, List.any_eq_true, List.contains_iff_mem, Shows]
  constructor
  · rintro ⟨m, shown, package, exports, isUsed⟩
    exact ⟨package, isUsed, m, shown, exports⟩
  · rintro ⟨package, isUsed, m, shown, exports⟩
    exact ⟨m, shown, package, exports, isUsed⟩

theorem exportNothingUsed_eq {used : PackageSet} {modules : List Module}
    (readable : ∀ m ∈ modules, m.Readable) :
    exportNothingUsed used modules = .ok (!modules.any fun m => m.exported.any used.contains) := by
  induction modules with
  | nil => rfl
  | cons first rest ih =>
    obtain ⟨names, told⟩ := readable first List.mem_cons_self
    have step : exportNothingUsed used (first :: rest) =
        if names.any used.contains then .ok false else exportNothingUsed used rest := by
      rw [exportNothingUsed, told]
      rfl
    rw [step, ih fun m later => readable m (List.mem_cons_of_mem _ later), List.any_cons,
      Module.exported_eq told]
    cases names.any used.contains <;> simp

/-- A requirement is unused when it serves nothing. -/
theorem ModuleImport.isUnused_eq {registry : Registry} {required : ModuleImport}
    (readable : ∀ n ∈ registry.visible (.ofRegistry registry) required.id, n.Readable)
    (used : PackageSet) : required.isUnused used registry (.ofRegistry registry) =
      .ok (!registry.serves used required.id) :=
  exportNothingUsed_eq readable

/-- The exports that an analysis of the module may read can be told: its own, and those of the modules
that its requirements show. -/
structure Module.Legible (m : Module) (registry : Registry) : Prop where
  own : m.Readable
  shown : ∀ required ∈ m.requires, ∀ n ∈ registry.visible (.ofRegistry registry) required.id,
    n.Readable

theorem Module.Legible.of_readable {m : Module} {registry : Registry} (told : m.Readable)
    (readable : registry.Readable) : m.Legible registry :=
  ⟨told, fun _ _ n shown => readable n (Registry.mem_modules_of_visible shown)⟩

/-! ## The passes over the declarations -/

namespace Analysis

variable {m : Module} {registry : Registry} {used : PackageSet}

/-- Enters requirements under their ids; of several with one id the last stays. -/
def enterAll (map : UsedModules) (requires : List ModuleImport) : UsedModules :=
  requires.foldl (fun map required => Fields.put required.id required map) map

theorem classifyRequires_outcome {requires : List ModuleImport}
    (readable : ∀ required ∈ requires,
      ∀ n ∈ registry.visible (.ofRegistry registry) required.id, n.Readable)
    (classified : Classified) :
    (classifyRequires m used registry (.ofRegistry registry) classified requires).outcome =
      .ok { classified with
        unused := classified.unused ++
          (requires.filter fun required => !registry.serves used required.id).map .requirement
        usedModules := enterAll classified.usedModules
          (requires.filter fun required => registry.serves used required.id) } := by
  induction requires generalizing classified with
  | nil => simp [classifyRequires, Script.answer, enterAll]
  | cons required rest ih =>
    rw [classifyRequires, poll, Script.outcome_event_bind,
      ModuleImport.isUnused_eq (readable required List.mem_cons_self),
      Script.outcome_ofOutcome_bind_ok]
    dsimp only
    rw [Script.outcome_event_bind, tellCount, Script.outcome_event_bind,
      ih fun other later => readable other (List.mem_cons_of_mem _ later)]
    cases serves : registry.serves used required.id <;> simp [serves, enterAll]

theorem classifyPackages_outcome (exported : List String) (classified : Classified)
    (packages : List PackageImport) :
    (classifyPackages m exported used classified packages).outcome =
      .ok { classified with
        unused := classified.unused ++
          (packages.filter fun package => package.isUnused exported used).map .packageImport
        usedPackages := classified.usedPackages ++
          packages.filter fun package => !package.isUnused exported used } := by
  induction packages generalizing classified with
  | nil => simp [classifyPackages, Script.answer]
  | cons package rest ih =>
    rw [classifyPackages, poll, Script.outcome_event_bind]
    cases isUnused : package.isUnused exported used with
    | true =>
      rw [if_pos rfl]
      dsimp only
      rw [tellCount, Script.outcome_event_bind, Script.outcome_bind_of_ok _ (Script.outcome_pure _),
        Script.outcome_event_bind, ih]
      simp [isUnused]
    | false =>
      rw [if_neg (by simp), Script.outcome_bind_of_ok _ (Script.outcome_pure _),
        Script.outcome_event_bind, ih]
      simp [isUnused]

end Analysis

/-! ## Minimization and policies -/

theorem absorb_outcome (used : UsedModules) (packages : List PackageImport) :
    (absorb used packages).outcome = .ok (absorbed used packages) :=
  Script.outcome_bind_of_ok _ (Script.outcome_forIn_of_yield fun _ _ => rfl)

theorem script_outcome (owner : Option String) (step : Expansion) :
    (step.script owner).outcome = .ok () := by
  rw [Expansion.script, Script.outcome_event_bind]
  exact Script.outcome_bind_of_ok _ (Script.outcome_forIn_of_yield fun _ _ => rfl)

theorem contract_outcome (used : UsedModules) (graph : ReexportGraph) (owner : Option String) :
    (contract used graph owner).outcome = .ok (graph.contracted used, graph.kept used) :=
  Script.outcome_bind_of_ok _ (Script.outcome_forIn_of_yield fun step _ =>
    Script.outcome_bind_of_ok _ (script_outcome owner step))

theorem minimize_outcome (used : UsedModules) (packages : List PackageImport)
    (graph : ReexportGraph) (owner : Option String) :
    (minimize used packages graph owner).outcome =
      .ok ((absorbed used packages).map Entry.packageImport ++
        (graph.contracted used).map Entry.requirement, graph.kept used) := by
  rw [minimize, Script.outcome_bind_of_ok _ (absorb_outcome used packages),
    Script.outcome_bind_of_ok _ (contract_outcome used graph owner), Script.outcome_pure]

theorem keepBuddies_outcome (m : Module) (entries : List Entry) :
    (keepBuddies m entries).outcome = .ok (entries.filter fun entry => !entry.isBuddy m) :=
  Script.outcome_bind_of_ok _ (Script.outcome_forIn_of_yield fun _ _ => rfl)

theorem keepReexported_outcome (entries : List Entry) :
    (keepReexported entries).outcome = .ok (entries.filter fun entry => !entry.isReexported) :=
  Script.outcome_bind_of_ok _ (Script.outcome_forIn_of_yield fun _ _ => rfl)

/-! ## The entries -/

namespace Analysis

/-- The requirements of a module that serve, by id. -/
def usedModules (m : Module) (registry : Registry) (used : PackageSet) : UsedModules :=
  enterAll [] (m.requires.filter fun required => registry.serves used required.id)

/-- The entries of a module before the policies: what is unused, and what is redundant. -/
def found (m : Module) (registry : Registry) (used : PackageSet) : List Entry :=
  (m.requires.filter fun required => !registry.serves used required.id).map
      Entry.requirement ++
    (m.packageImports.filter fun package => package.isUnused m.exported used).map
      Entry.packageImport ++
    ((absorbed (usedModules m registry used)
        (m.packageImports.filter fun package => !package.isUnused m.exported used)).map
          Entry.packageImport ++
      ((ReexportGraph.ofRegistry registry).contracted (usedModules m registry used)).map
        Entry.requirement)

/-- The entries that no policy keeps. -/
def reported (m : Module) (registry : Registry) (used : PackageSet) : List Entry :=
  ((found m registry used).filter fun entry => !entry.isBuddy m).filter
    fun entry => !entry.isReexported

theorem search_outcome {m : Module} {registry : Registry} {used : PackageSet}
    (legible : m.Legible registry) :
    (search m registry used).outcome = .ok (reported m registry used) := by
  obtain ⟨names, told⟩ := legible.own
  rw [search]
  dsimp only
  rw [Script.outcome_event_bind, told, Script.outcome_ofOutcome_bind_ok,
    Script.outcome_bind_of_ok _ (classifyRequires_outcome legible.shown _),
    Script.outcome_bind_of_ok _ (classifyPackages_outcome _ _ _), poll,
    Script.outcome_event_bind, Script.outcome_bind_of_ok _ (minimize_outcome _ _ _ _),
    Script.outcome_event_bind, tellCount, Script.outcome_event_bind,
    Script.outcome_bind_of_ok _ (keepBuddies_outcome _ _), keepReexported_outcome]
  simp only [reported, found, usedModules, Module.exported_eq told, List.nil_append]

/-- An analysis whose oracle answers reports the entries that no policy keeps. -/
theorem run_outcome_of_legible {m : Module} {registry : Registry} {oracle : Oracle}
    {used : PackageSet} (hasId : m.hasId) (legible : m.Legible registry)
    (answers : (oracle.consult m).outcome = .ok used) :
    (run m registry oracle).outcome =
      .ok ⟨m.id, reported m registry used, used,
        m.requires.length + m.packageImports.length⟩ := by
  rw [run, if_neg (by simp [hasId]), poll, Script.outcome_event_bind,
    Script.outcome_bind_of_ok _ (Script.outcome_mapFailure_of_ok _ answers), Script.outcome_note_bind,
    Script.outcome_bind_of_ok _ (search_outcome legible)]
  dsimp only
  rw [Script.outcome_note_bind, Script.outcome_pure]

theorem run_outcome {m : Module} {registry : Registry} {oracle : Oracle} {used : PackageSet}
    (hasId : m.hasId) (told : m.Readable) (readable : registry.Readable)
    (answers : (oracle.consult m).outcome = .ok used) :
    (run m registry oracle).outcome =
      .ok ⟨m.id, reported m registry used, used,
        m.requires.length + m.packageImports.length⟩ :=
  run_outcome_of_legible hasId (.of_readable told readable) answers

theorem play_run_outcome {m : Module} {registry : Registry} {oracle : Oracle} {used : PackageSet}
    {monitor : Monitor} (hasId : m.hasId) (told : m.Readable) (readable : registry.Readable)
    (answers : (oracle.consult m).outcome = .ok used)
    (uncancelled : ¬ monitor.Cancels (run m registry oracle)) :
    (monitor.play (run m registry oracle)).1.outcome =
      .ok ⟨m.id, reported m registry used, used,
        m.requires.length + m.packageImports.length⟩ := by
  rw [Monitor.play_eq_of_not_cancels uncancelled, run_outcome hasId told readable answers]

end Analysis

end Pruning
