import Pruning.Proofs.Analysis.Classification

/-!
# What an analysis reports

The entries of an analysis, described by the declarations alone. A requirement is found when it serves
nothing, or when it is the last declaration of its id and another requirement that serves re-exports it
along some path (`mem_found_requirement`). A package import is found when nothing uses it, or when it
names a requirement that serves as its provider (`mem_found_package`). No declaration is found more
often than it is made (`found_subperm`).
-/

namespace Pruning

open Relation

/-- No later declaration of the list requires the same module. -/
def ModuleImport.IsLastOf (required : ModuleImport) (requires : List ModuleImport) : Prop :=
  ∃ before after, requires = before ++ required :: after ∧
    ∀ later ∈ after, later.id ≠ required.id

namespace Module

/-- Everything a module declares, as entries. -/
def declarations (m : Module) : List Entry :=
  m.requires.map Entry.requirement ++ m.packageImports.map Entry.packageImport

/-- The module declares a requirement of `id`, and that makes some used package visible. -/
def ReliesOn (m : Module) (registry : Registry) (used : PackageSet) (id : String) : Prop :=
  (∃ required ∈ m.requires, required.id = id) ∧ ∃ package ∈ used, registry.Shows id package

end Module

namespace Analysis

variable {m : Module} {registry : Registry} {used : PackageSet} {id : String}
  {required : ModuleImport} {package : PackageImport}

/-! ## The requirements that serve -/

theorem getLast?_filter_id {requires : List ModuleImport} :
    (requires.filter fun declared => declared.id = id).getLast? = some required ↔
      required.id = id ∧ required.IsLastOf requires := by
  rw [List.getLast?_filter, List.find?_eq_some_iff_append, decide_eq_true_iff]
  constructor
  · rintro ⟨rfl, after, before, split, others⟩
    refine ⟨rfl, before.reverse, after.reverse, ?_, fun later member => ?_⟩
    · rw [← List.reverse_reverse requires, split]
      simp
    · simpa using others later (List.mem_reverse.mp member)
  · rintro ⟨rfl, before, after, split, others⟩
    refine ⟨rfl, after.reverse, before.reverse, ?_, fun later member => ?_⟩
    · rw [split]
      simp
    · simpa using others later (List.mem_reverse.mp member)

/-- Under the id of a requirement that serves stands its last declaration. -/
theorem get?_usedModules : Fields.get? id (usedModules m registry used) = some required ↔
    registry.serves used id = true ∧ required.id = id ∧ required.IsLastOf m.requires := by
  rw [usedModules, enterAll,
    Fields.get?_foldl_put ModuleImport.id (fun declared => declared) _, List.filter_filter]
  cases serves : registry.serves used id with
  | true =>
    have same : (m.requires.filter fun declared =>
        declared.id = id && registry.serves used declared.id) =
        m.requires.filter fun declared => declared.id = id := by
      refine List.filter_congr fun declared _ => ?_
      by_cases same : declared.id = id <;> simp [same, serves]
    rw [same]
    simpa using getLast?_filter_id
  | false =>
    have nobody : (m.requires.filter fun declared =>
        declared.id = id && registry.serves used declared.id) = [] := by
      rw [List.filter_eq_nil_iff]
      intro declared _
      by_cases same : declared.id = id <;> simp [same, serves]
    rw [nobody]
    simp

theorem keyed_usedModules : (usedModules m registry used).Keyed :=
  fun _ _ found => (get?_usedModules.mp found).2.1

theorem exists_isLastOf {requires : List ModuleImport}
    (declared : ∃ required ∈ requires, required.id = id) :
    ∃ last : ModuleImport, last.id = id ∧ last.IsLastOf requires := by
  obtain ⟨required, member, same⟩ := declared
  have nonempty : (requires.filter fun declared => declared.id = id) ≠ [] :=
    List.ne_nil_of_mem (List.mem_filter.mpr ⟨member, by simpa using same⟩)
  exact ⟨_, getLast?_filter_id.mp (List.getLast?_eq_some_getLast nonempty)⟩

theorem mem_of_isLastOf {requires : List ModuleImport} (last : required.IsLastOf requires) :
    required ∈ requires := by
  obtain ⟨before, after, split, _⟩ := last
  rw [split]
  simp

theorem mem_keys_usedModules :
    id ∈ Fields.keys (usedModules m registry used) ↔ m.ReliesOn registry used id := by
  rw [Fields.mem_keys_iff, Module.ReliesOn, ← Registry.serves_iff]
  constructor
  · rintro ⟨required, found⟩
    obtain ⟨serves, same, last⟩ := get?_usedModules.mp found
    exact ⟨⟨required, mem_of_isLastOf last, same⟩, serves⟩
  · rintro ⟨declared, serves⟩
    obtain ⟨last, same, isLast⟩ := exists_isLastOf declared
    exact ⟨last, get?_usedModules.mpr ⟨serves, same, isLast⟩⟩

/-! ## The entries that are found -/

theorem mem_found_requirement : .requirement required ∈ found m registry used ↔
    required ∈ m.requires ∧ ((¬ ∃ package ∈ used, registry.Shows required.id package) ∨
      required.IsLastOf m.requires ∧ ∃ user, m.ReliesOn registry used user ∧
        TransGen (ReexportGraph.ofRegistry registry).Edge user required.id) := by
  have byLists : .requirement required ∈ found m registry used ↔
      (required ∈ m.requires ∧ registry.serves used required.id = false) ∨
        required ∈ (ReexportGraph.ofRegistry registry).contracted
          (usedModules m registry used) := by
    simp [found]
  rw [byLists, ReexportGraph.mem_contracted_iff, ← Registry.serves_iff, Bool.not_eq_true]
  simp only [mem_keys_usedModules]
  constructor
  · rintro (⟨declared, idle⟩ | ⟨id, found, path⟩)
    · exact ⟨declared, Or.inl idle⟩
    · obtain ⟨_, rfl, last⟩ := get?_usedModules.mp found
      exact ⟨mem_of_isLastOf last, Or.inr ⟨last, path⟩⟩
  · rintro ⟨declared, idle | ⟨last, path⟩⟩
    · exact Or.inl ⟨declared, idle⟩
    · cases serves : registry.serves used required.id with
      | false => exact Or.inl ⟨declared, rfl⟩
      | true => exact Or.inr ⟨required.id, get?_usedModules.mpr ⟨serves, rfl, last⟩, path⟩

theorem isAbsorbed_iff : package.isAbsorbed (usedModules m registry used) = true ↔
    ∃ provider, package.provider = some provider ∧ m.ReliesOn registry used provider := by
  rw [PackageImport.isAbsorbed]
  cases package.provider with
  | none => simp
  | some provider => simp [Fields.has_iff, mem_keys_usedModules]

theorem mem_found_package : .packageImport package ∈ found m registry used ↔
    package ∈ m.packageImports ∧ (package.name ∉ m.exported ∧ package.name ∉ used ∨
      ∃ provider, package.provider = some provider ∧ m.ReliesOn registry used provider) := by
  have unused : package.isUnused m.exported used = true ↔
      package.name ∉ m.exported ∧ package.name ∉ used := by
    simp [PackageImport.isUnused]
  have byLists : .packageImport package ∈ found m registry used ↔
      (package ∈ m.packageImports ∧ package.isUnused m.exported used = true) ∨
        package ∈ m.packageImports ∧ package.isAbsorbed (usedModules m registry used) = true ∧
          package.isUnused m.exported used = false := by
    simp [found, absorbed]
  rw [byLists, ← unused, ← isAbsorbed_iff]
  cases package.isUnused m.exported used <;> simp

theorem filter_append_subperm {α : Type} {p : α → Bool} {items rest : List α}
    (others : rest.Subperm (items.filter fun item => !p item)) :
    (items.filter p ++ rest).Subperm items :=
  ((List.Subperm.refl _).append others).trans (List.filter_append_perm p items).subperm

/-- No declaration is found more often than it is made. -/
theorem found_subperm : (found m registry used).Subperm m.declarations := by
  have contractedOnce : ((ReexportGraph.ofRegistry registry).contracted
      (usedModules m registry used)).Subperm
        (m.requires.filter fun declared => registry.serves used declared.id) := by
    refine List.subperm_of_subset (.of_map _ (ReexportGraph.nodup_contracted keyed_usedModules)) ?_
    intro declared member
    obtain ⟨id, found, _⟩ := ReexportGraph.mem_contracted_iff.mp member
    obtain ⟨serves, rfl, last⟩ := get?_usedModules.mp found
    exact List.mem_filter.mpr ⟨mem_of_isLastOf last, serves⟩
  have requirements : ((m.requires.filter fun declared => !registry.serves used declared.id) ++
      (ReexportGraph.ofRegistry registry).contracted (usedModules m registry used)).Subperm
        m.requires :=
    filter_append_subperm (by simpa using contractedOnce)
  have packages : ((m.packageImports.filter fun package => package.isUnused m.exported used) ++
      absorbed (usedModules m registry used)
        (m.packageImports.filter fun package => !package.isUnused m.exported used)).Subperm
        m.packageImports :=
    filter_append_subperm List.filter_sublist.subperm
  have ofRequires : Function.Injective Entry.requirement := fun _ _ => Entry.requirement.inj
  have ofPackages : Function.Injective Entry.packageImport := fun _ _ => Entry.packageImport.inj
  refine List.Subperm.trans (List.Perm.subperm ?_)
    ((requirements.map ofRequires).append (packages.map ofPackages))
  rw [List.perm_iff_count]
  intro entry
  simp only [found, List.map_append, List.count_append]
  omega

/-! ## The entries that are reported -/

theorem mem_reported_requirement : .requirement required ∈ reported m registry used ↔
    required ∈ m.requires ∧ required.reexported = false ∧ required.id ∉ m.buddies ∧
      ((¬ ∃ package ∈ used, registry.Shows required.id package) ∨
        required.IsLastOf m.requires ∧ ∃ user, m.ReliesOn registry used user ∧
          TransGen (ReexportGraph.ofRegistry registry).Edge user required.id) := by
  rw [reported, List.mem_filter, List.mem_filter, mem_found_requirement]
  simp only [Entry.isBuddy, Entry.isReexported, Bool.not_eq_true', List.contains_eq_mem,
    decide_eq_false_iff_not]
  constructor
  · rintro ⟨⟨⟨declared, why⟩, noBuddy⟩, notReexported⟩
    exact ⟨declared, notReexported, noBuddy, why⟩
  · rintro ⟨declared, notReexported, noBuddy, why⟩
    exact ⟨⟨⟨declared, why⟩, noBuddy⟩, notReexported⟩

theorem mem_reported_package : .packageImport package ∈ reported m registry used ↔
    package ∈ m.packageImports ∧ (package.name ∉ m.exported ∧ package.name ∉ used ∨
      ∃ provider, package.provider = some provider ∧ m.ReliesOn registry used provider) := by
  rw [reported, List.mem_filter, List.mem_filter, mem_found_package]
  simp [Entry.isBuddy, Entry.isReexported]

theorem reported_subperm : (reported m registry used).Subperm m.declarations :=
  (List.filter_sublist.trans List.filter_sublist).subperm.trans found_subperm

theorem nodup_of_subperm {α : Type} {items others : List α} (sub : items.Subperm others)
    (nodup : others.Nodup) : items.Nodup := by
  obtain ⟨ordered, perm, sublist⟩ := sub
  exact perm.nodup_iff.mp (nodup.sublist sublist)

/-- An analysis that is not cancelled reports exactly these declarations. A requirement is reported when
it is not re-exported, names no buddy, and either makes no used package visible, or is the last
declaration of its id and is re-exported, along a path, by a module on which the analyzed module relies.
A package import is reported when its package is neither exported nor used, or when it comes from a
module on which the analyzed module relies. -/
theorem run_reports_exactly {oracle : Oracle} {monitor : Monitor} (hasId : m.hasId)
    (told : m.Readable) (readable : registry.Readable)
    (answers : (oracle.consult m).outcome = .ok used)
    (uncancelled : ¬ monitor.Cancels (run m registry oracle)) :
    ∃ findings : Findings, (monitor.play (run m registry oracle)).1.outcome = .ok findings ∧
      (∀ required, .requirement required ∈ findings.unused ↔
        required ∈ m.requires ∧ required.reexported = false ∧ required.id ∉ m.buddies ∧
          ((¬ ∃ package ∈ used, registry.Shows required.id package) ∨
            required.IsLastOf m.requires ∧ ∃ user, m.ReliesOn registry used user ∧
              TransGen (ReexportGraph.ofRegistry registry).Edge user required.id)) ∧
      (∀ package, .packageImport package ∈ findings.unused ↔
        package ∈ m.packageImports ∧ (package.name ∉ m.exported ∧ package.name ∉ used ∨
          ∃ provider, package.provider = some provider ∧ m.ReliesOn registry used provider)) ∧
      findings.unused.Subperm m.declarations ∧
      (m.declarations.Nodup → findings.unused.Nodup) ∧
      findings.moduleId = m.id ∧ findings.usedPackages = used ∧
      findings.declared = m.declarations.length ∧
      findings.unused.length ≤ findings.declared := by
  have outcome := run_outcome hasId told readable answers
  have declared : m.requires.length + m.packageImports.length = m.declarations.length := by
    simp [Module.declarations]
  rw [declared] at outcome
  refine ⟨⟨m.id, reported m registry used, used, m.declarations.length⟩, ?_,
    fun _ => mem_reported_requirement, fun _ => mem_reported_package, reported_subperm,
    nodup_of_subperm reported_subperm, rfl, rfl, rfl, reported_subperm.length_le⟩
  rw [Monitor.play_eq_of_not_cancels uncancelled, outcome]

/-- A module that requires a facade, twice the library that the facade re-exports, and two modules that
nobody has, one of which is its buddy. It imports a package from the library, a package that it exports
itself, and one that it does not use. -/
def clientOfTwo : Module where
  mark := 9
  id := "client"
  version := "1.0"
  requires := [.plain ⟨9, 0⟩ "library" false, .plain ⟨9, 1⟩ "facade" false,
    .plain ⟨9, 2⟩ "library" false, .plain ⟨9, 3⟩ "missing" false, .plain ⟨9, 4⟩ "friend" false]
  packages := some [⟨⟨9, 0⟩, "library.api", [(PackageImport.providerKey, "library")], []⟩,
    ⟨⟨9, 1⟩, "client.api", [], []⟩, ⟨⟨9, 2⟩, "foreign.api", [], []⟩]
  headers := [(Header.exportPackage, "client.api;version=1.0"), (Header.buddy, "friend, other")]
  metadataExports := none
  location := none
  lineEnding := "\n"

/-- The second requirement of the library is reported, as others re-export the library; the first one
stays. Of the modules that nobody has the buddy stays. The package of the library goes with it, and the
package that is exported stays. -/
theorem run_reports_exactly_client :
    clientOfTwo.hasId = true ∧ clientOfTwo.Readable ∧ Registry.facadeOfTwo.Readable ∧
      ∃ findings : Findings,
        (Monitor.silent.play
          (run clientOfTwo Registry.facadeOfTwo (.fixed ["library.api"]))).1.outcome =
            .ok findings ∧
        .requirement (.plain ⟨9, 0⟩ "library" false) ∉ findings.unused ∧
        .requirement (.plain ⟨9, 2⟩ "library" false) ∈ findings.unused ∧
        .requirement (.plain ⟨9, 3⟩ "missing" false) ∈ findings.unused ∧
        .requirement (.plain ⟨9, 4⟩ "friend" false) ∉ findings.unused ∧
        .packageImport ⟨⟨9, 0⟩, "library.api", [(PackageImport.providerKey, "library")], []⟩ ∈
          findings.unused ∧
        .packageImport ⟨⟨9, 1⟩, "client.api", [], []⟩ ∉ findings.unused ∧
        .packageImport ⟨⟨9, 2⟩, "foreign.api", [], []⟩ ∈ findings.unused ∧
        findings.unused.Nodup ∧ findings.declared = 8 := by
  have exports : clientOfTwo.exports = .ok ["client.api"] := by decide +kernel
  have told : clientOfTwo.Readable := ⟨_, exports⟩
  have readable : Registry.facadeOfTwo.Readable := Registry.readable_facadeOfTwo
  have uncancelled : ¬ Monitor.silent.Cancels
      (run clientOfTwo Registry.facadeOfTwo (.fixed ["library.api"])) :=
    Monitor.idle_silent.not_cancels (run_outcome rfl told readable rfl)
  obtain ⟨findings, outcome, requirements, packages, -, nodup, -, -, declared, -⟩ :=
    run_reports_exactly rfl told readable rfl uncancelled
  have edge : (ReexportGraph.ofRegistry Registry.facadeOfTwo).Edge "facade" "library" := by
    unfold ReexportGraph.Edge
    decide
  have shown (id : String) (visible : .plain 2 "library" "2.0" [] ["library.api"] ∈
      Registry.facadeOfTwo.visible (.ofRegistry Registry.facadeOfTwo) id) :
      ∃ package ∈ ["library.api"], Registry.facadeOfTwo.Shows id package :=
    ⟨"library.api", by simp, _, visible, by decide⟩
  have libraryShows := shown "library"
    ((Registry.mem_visible_iff Registry.identified_facadeOfTwo).mpr (Or.inl (by decide)))
  have facadeShows := shown "facade"
    ((Registry.mem_visible_iff Registry.identified_facadeOfTwo).mpr
      (Or.inr ⟨"library", by decide, .single edge, rfl⟩))
  have nothingShown : Registry.facadeOfTwo.visible (.ofRegistry Registry.facadeOfTwo) "missing" = [] := by
    cbv
  have buddies : clientOfTwo.buddies = ["friend", "other"] := by decide +kernel
  have exported : clientOfTwo.exported = ["client.api"] := Module.exported_eq exports
  refine ⟨rfl, told, readable, findings, outcome, fun isReported => ?_, ?_, ?_, fun isReported => ?_, ?_,
    fun isReported => ?_, ?_, nodup (by decide), declared⟩
  · obtain ⟨_, _, _, idle | ⟨last, _⟩⟩ := (requirements _).mp isReported
    · exact idle libraryShows
    · have found := getLast?_filter_id.mpr ⟨rfl, last⟩
      exact absurd found (by decide)
  · refine (requirements _).mpr ⟨by decide, rfl, by decide +kernel, Or.inr ⟨?_, "facade", ?_, .single edge⟩⟩
    · exact (getLast?_filter_id.mp (by decide :
        (clientOfTwo.requires.filter fun declared => declared.id = "library").getLast? =
          some (.plain ⟨9, 2⟩ "library" false))).2
    · exact ⟨⟨.plain ⟨9, 1⟩ "facade" false, by decide, rfl⟩, facadeShows⟩
  · refine (requirements _).mpr ⟨by decide, rfl, by rw [buddies]; decide, Or.inl ?_⟩
    rintro ⟨package, -, m, visible, -⟩
    have visible : m ∈ Registry.facadeOfTwo.visible (.ofRegistry Registry.facadeOfTwo) "missing" :=
      visible
    rw [nothingShown] at visible
    cases visible
  · obtain ⟨_, _, noBuddy, _⟩ := (requirements _).mp isReported
    rw [buddies] at noBuddy
    exact noBuddy List.mem_cons_self
  · refine (packages _).mpr ⟨by decide, Or.inr ⟨"library", rfl, ?_, libraryShows⟩⟩
    exact ⟨.plain ⟨9, 0⟩ "library" false, by decide, rfl⟩
  · obtain ⟨_, ⟨foreign, _⟩ | ⟨_, named, _⟩⟩ := (packages _).mp isReported
    · exact foreign (exported ▸ List.mem_cons_self)
    · cases named
  · refine (packages _).mpr ⟨by decide, Or.inl ⟨?_, by decide⟩⟩
    rw [exported]
    decide

end Analysis

end Pruning
