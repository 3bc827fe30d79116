import Pruning.Proofs.Analysis.Survival
import Pruning.Proofs.Removal.Selection
import Pruning.Proofs.Visibility.Editing

/-!
# Pruning twice finds nothing

No requirement that a module re-exports is ever reported, so nobody else notices the removal of what is
reported (`discreet_remove`), and a module without some of its declarations reports nothing that it did
not report with them (`reported_without`). What is reported once and then removed can therefore not be reported again
(`settles`), as long as the removal reaches it: a package import that is listed twice, or belongs to the
header of another module, stays in the module (`not_settles_strays`).
-/

namespace Pruning

namespace Workbench

variable {bench : Workbench} {registry : Registry} {m : Module}

/-- A module whose ids and package imports are listed once is carried by the bench that holds its
header. -/
theorem Carries.of_identified (marked : m.Identified)
    (ids : (m.requires.map ModuleImport.id).Nodup) (packages : m.packageImports.Nodup)
    (onBench : bench.module? m.mark = some m)
    (attached : ∀ package ∈ m.packageImports, bench.holder? package.mark = some m.mark) :
    bench.Carries m where
  onBench := onBench
  requires := (List.Nodup.of_map _ ids).map_on marked.requires
  packages := packages.map_on marked.packages
  attached := attached

end Workbench

/-! ## What a module without some declarations shows -/

namespace Module

variable {m : Module} {targets : List Target}

theorem ReliesOn.of_without {registry : Registry} {f : Module → Module} {used : PackageSet}
    {id : String} (discreet : registry.Discreet f)
    (relies : (m.without targets).ReliesOn (registry.map f) used id) :
    m.ReliesOn registry used id := by
  obtain ⟨⟨required, declared, same⟩, package, isUsed, shown⟩ := relies
  exact ⟨⟨required, (mem_requires_without.mp declared).1, same⟩, package, isUsed,
    discreet.shows_iff.mp shown⟩

end Module

theorem ModuleImport.IsLastOf.of_nodup {required : ModuleImport} {requires : List ModuleImport}
    (ids : (requires.map ModuleImport.id).Nodup) (declared : required ∈ requires) :
    required.IsLastOf requires := by
  obtain ⟨before, after, rfl⟩ := List.append_of_mem declared
  refine ⟨before, after, rfl, fun later member same => ?_⟩
  rw [List.map_append, List.map_cons, List.nodup_append, List.nodup_cons] at ids
  exact ids.2.1.1 (same ▸ List.mem_map_of_mem member)

namespace Analysis

variable {m : Module} {registry : Registry} {used : PackageSet} {targets : List Target}
  {f : Module → Module}

/-- A module without some of its declarations reports nothing that it did not report with them. -/
theorem reported_without (ids : (m.requires.map ModuleImport.id).Nodup)
    (discreet : registry.Discreet f) :
    reported (m.without targets) (registry.map f) used ⊆ reported m registry used := by
  intro entry isReported
  cases entry with
  | requirement required =>
    obtain ⟨declared, hidden, noBuddy, why⟩ := mem_reported_requirement.mp isReported
    have declared := (Module.mem_requires_without.mp declared).1
    refine mem_reported_requirement.mpr ⟨declared, hidden, noBuddy, ?_⟩
    rcases why with idle | ⟨_, user, relies, above⟩
    · exact Or.inl fun ⟨package, isUsed, shown⟩ =>
        idle ⟨package, isUsed, discreet.shows_iff.mpr shown⟩
    · rw [discreet.graph] at above
      exact Or.inr ⟨.of_nodup ids declared, user, relies.of_without discreet, above⟩
  | packageImport package =>
    obtain ⟨declared, why⟩ := mem_reported_package.mp isReported
    refine mem_reported_package.mpr ⟨(Module.mem_packageImports_without.mp declared).1, ?_⟩
    rcases why with idle | ⟨provider, named, relies⟩
    · exact Or.inl idle
    · exact Or.inr ⟨provider, named, relies.of_without discreet⟩

theorem has_of_reported {entry : Entry} (isReported : entry ∈ reported m registry used) :
    m.Has entry.target := by
  cases entry with
  | requirement required =>
    exact ⟨required, (mem_reported_requirement.mp isReported).1, rfl⟩
  | packageImport package => exact ⟨package, (mem_reported_package.mp isReported).1, rfl⟩

/-- Once everything reported is taken out, nothing is reported. -/
theorem reported_without_reported (ids : (m.requires.map ModuleImport.id).Nodup)
    (discreet : registry.Discreet f) :
    reported (m.without ((reported m registry used).map Entry.target)) (registry.map f) used =
      [] := by
  refine List.eq_nil_iff_forall_not_mem.mpr fun entry again => ?_
  have before := List.mem_map_of_mem (f := Entry.target) (reported_without ids discreet again)
  cases entry with
  | requirement required =>
    exact (Module.mem_requires_without.mp (mem_reported_requirement.mp again).1).2 before
  | packageImport package =>
    exact (Module.mem_packageImports_without.mp (mem_reported_package.mp again).1).2 before

/-! ## The second analysis -/

theorem nodup_targets_reported {bench : Workbench} (carries : bench.Carries m) (registry : Registry)
    (used : PackageSet) :
    ((reported m registry used).map Entry.target).Nodup := by
  have requirements : ((m.requires.map ModuleImport.mark).map Target.requirement).Nodup :=
    carries.requires.map fun _ _ => Target.requirement.inj
  have packages : ((m.packageImports.map PackageImport.mark).map Target.package).Nodup :=
    carries.packages.map fun _ _ => Target.package.inj
  have declared : (m.declarations.map Entry.target).Nodup := by
    rw [Module.declarations, List.map_append, List.map_map, List.map_map]
    rw [List.map_map] at requirements packages
    refine requirements.append packages fun target selected other => ?_
    obtain ⟨required, _, rfl⟩ := List.mem_map.mp selected
    obtain ⟨package, _, isPackage⟩ := List.mem_map.mp other
    cases isPackage
  obtain ⟨ordered, perm, sublist⟩ := reported_subperm (m := m)
  exact (perm.map Entry.target).nodup_iff.mp (declared.sublist (sublist.map Entry.target))

/-- One pruning is enough. Whenever an analysis of the module on the bench is not cancelled, the removal
takes out every entry that it reports, and a later analysis of what is left of the module, with the same
used packages and the same registry, reports nothing. -/
def Settles (bench : Workbench) (m : Module) (registry : Registry) (used : PackageSet) : Prop :=
  ∀ (oracle : Oracle) (monitor : Monitor), (oracle.consult m).outcome = .ok used →
    ¬ monitor.Cancels (run m registry oracle) →
    ∃ (findings : Findings) (last : Workbench) (pruned : Module),
      (monitor.play (run m registry oracle)).1.outcome = .ok findings ∧
      (bench.remove m.mark (findings.unused.map .entry)).outcome =
        .ok (findings.unused.length, last) ∧
      last.module? m.mark = some pruned ∧
      ∀ (again : Oracle) (next : Monitor), (again.consult pruned).outcome = .ok used →
        ¬ next.Cancels (run pruned (last.refresh registry) again) →
        ∃ second : Findings,
          (next.play (run pruned (last.refresh registry) again)).1.outcome = .ok second ∧
          second.unused = []

/-- A module settles that has different requirements, lists each package import once, and has them all in
its own header. -/
theorem settles {bench : Workbench} (hasId : m.hasId) (told : m.Readable)
    (readable : registry.Readable) (marked : m.Identified)
    (ids : (m.requires.map ModuleImport.id).Nodup) (packages : m.packageImports.Nodup)
    (onBench : bench.module? m.mark = some m)
    (attached : ∀ package ∈ m.packageImports, bench.holder? package.mark = some m.mark)
    (current : bench.refresh registry = registry) : Settles bench m registry used := by
  intro oracle monitor answers uncancelled
  have carries : bench.Carries m := .of_identified marked ids packages onBench attached
  obtain ⟨last, removal, ⟨pruned, _⟩, -⟩ := carries.remove
    (fun entry isReported => has_of_reported isReported)
    (nodup_targets_reported carries registry used)
  rw [Module.mark_without] at pruned
  have discreet := discreet_remove marked onBench current removal
  refine ⟨_, last, _, play_run_outcome hasId told readable answers uncancelled, removal, pruned, ?_⟩
  intro again next answers uncancelled
  exact ⟨_, play_run_outcome hasId told (discreet.readable readable) answers uncancelled,
    reported_without_reported ids discreet⟩

/-- The client is in the registry itself; its requirement of the library and its import go. -/
theorem settles_facade :
    clientOfOne.hasId = true ∧ clientOfOne.Readable ∧ facadeWithClient.Readable ∧
      clientOfOne.Identified ∧ (clientOfOne.requires.map ModuleImport.id).Nodup ∧
      (Workbench.ofModule clientOfOne).refresh facadeWithClient = facadeWithClient ∧
      (reported clientOfOne facadeWithClient ["library.api"]).length = 2 ∧
      ¬ Monitor.silent.Cancels (run clientOfOne facadeWithClient (.fixed ["library.api"])) ∧
      Settles (.ofModule clientOfOne) clientOfOne facadeWithClient ["library.api"] := by
  have told : clientOfOne.Readable := ⟨[], rfl⟩
  have readable : facadeWithClient.Readable := Registry.readable_of_metadata (by decide)
  have marked : clientOfOne.Identified := ⟨by decide, by decide⟩
  have current : (Workbench.ofModule clientOfOne).refresh facadeWithClient = facadeWithClient := by
    decide
  exact ⟨rfl, told, readable, marked, by decide, current, by cbv,
    Monitor.idle_silent.not_cancels (run_outcome rfl told readable rfl),
    settles rfl told readable marked (by decide) (by decide) (by decide) (by decide) current⟩

/-! ## Package imports that a removal does not reach -/

theorem Settles.removes_reported {bench : Workbench} (settles : Settles bench m registry used)
    (hasId : m.hasId) (told : m.Readable) (readable : registry.Readable) :
    ∃ (last : Workbench) (pruned : Module),
      (bench.remove m.mark ((reported m registry used).map .entry)).outcome =
        .ok ((reported m registry used).length, last) ∧
      last.module? m.mark = some pruned ∧
      (pruned.hasId → pruned.Readable → (last.refresh registry).Readable →
        reported pruned (last.refresh registry) used = []) := by
  have outcome : ∀ {m : Module} {registry : Registry}, m.hasId → m.Readable → registry.Readable →
      (run m registry (.fixed used)).outcome = .ok ⟨m.id, reported m registry used, used,
        m.requires.length + m.packageImports.length⟩ :=
    fun hasId told readable => run_outcome hasId told readable rfl
  have uncancelled : ∀ {m : Module} {registry : Registry}, m.hasId → m.Readable →
      registry.Readable → ¬ Monitor.silent.Cancels (run m registry (.fixed used)) :=
    fun hasId told readable => Monitor.idle_silent.not_cancels (outcome hasId told readable)
  obtain ⟨findings, last, pruned, first, removal, onBench, again⟩ :=
    settles (.fixed used) .silent rfl (uncancelled hasId told readable)
  rw [Monitor.play_of_idle Monitor.idle_silent, outcome hasId told readable] at first
  cases first
  refine ⟨last, pruned, removal, onBench, fun hasId told readable => ?_⟩
  obtain ⟨second, answer, nothing⟩ := again (.fixed used) .silent rfl (uncancelled hasId told readable)
  rw [Monitor.play_of_idle Monitor.idle_silent, outcome hasId told readable] at answer
  cases answer
  exact nothing

/-- A package import that nothing uses. -/
def stray : PackageImport :=
  ⟨⟨9, 0⟩, "unused.api", [], []⟩

/-- A module that imports packages. -/
def importer (mark : Nat) (id : String) (packages : List PackageImport) : Module :=
  { Module.plain mark id "1.0" [] [] with packages := some packages }

/-- The bench on which the import was added a second time to the header that has it. -/
def listedTwice : Workbench :=
  (Workbench.ofModule (importer 9 "client" [stray])).addPackage 9 stray

/-- The bench on which the import was added to the header of another module. -/
def heldElsewhere : Workbench :=
  ((Workbench.ofModule (importer 9 "client" [stray])).lay (importer 10 "other" [])).addPackage 10 stray

/-- An import that is listed twice is removed once. One that was added to another header is removed from
there, and reported again. -/
theorem not_settles_strays :
    listedTwice.module? 9 = some (importer 9 "client" [stray, stray]) ∧
      heldElsewhere.module? 9 = some (importer 9 "client" [stray]) ∧
      (∀ packages, (importer 9 "client" packages).hasId = true ∧
        (importer 9 "client" packages).Readable ∧
        ((importer 9 "client" packages).requires.map ModuleImport.id).Nodup) ∧
      Registry.empty.Readable ∧
      ¬ Settles listedTwice (importer 9 "client" [stray, stray]) .empty [] ∧
      ¬ Settles heldElsewhere (importer 9 "client" [stray]) .empty [] := by
  have told (packages : List PackageImport) : (importer 9 "client" packages).Readable := ⟨[], rfl⟩
  have readable : Registry.empty.Readable := fun m member => by cases member
  refine ⟨by decide, by decide, fun packages => ⟨rfl, told packages, List.nodup_nil⟩, readable, ?_, ?_⟩
  · intro settles
    obtain ⟨last, _, removal, _⟩ := settles.removes_reported rfl (told _) readable
    have both : reported (importer 9 "client" [stray, stray]) .empty [] =
        [.packageImport stray, .packageImport stray] := by
      cbv
    rw [both] at removal
    cases removal
  · intro settles
    obtain ⟨last, pruned, removal, onBench, nothing⟩ := settles.removes_reported rfl (told _) readable
    have once : reported (importer 9 "client" [stray]) .empty [] = [.packageImport stray] := by cbv
    rw [once] at removal
    cases removal
    cases onBench
    have again := nothing rfl (told _) readable
    exact absurd (once.symm.trans again) (by simp)

end Analysis

end Pruning
