import Pruning.Proofs.Analysis.Findings
import Pruning.Proofs.Visibility.Editing

/-!
# Used packages survive a pruning

Where no id has two versions and no module re-exports itself, the removal of everything that an
analysis reports hides no used package. A requirement that serves may be reported because others
re-export it, and these may be reported in turn; `exists_survivor` follows the re-exporters up to one
that stays, and whatever the first one shows, that one shows too. The module may be in the registry
itself, and its package imports may belong to the headers of others. No requirement that is re-exported
is ever reported, so the registry shows after the removal what it showed before (`discreet_remove`).
-/

namespace Pruning

open Relation

/-- A mark is the identity of a declaration: no two requirements share one, and no two package
imports. -/
structure Module.Identified (m : Module) : Prop where
  requires : ∀ required ∈ m.requires, ∀ other ∈ m.requires,
    required.mark = other.mark → required = other
  packages : ∀ package ∈ m.packageImports, ∀ other ∈ m.packageImports,
    package.mark = other.mark → package = other

namespace Analysis

variable {m : Module} {registry : Registry} {used : PackageSet} {id package : String}

/-- Whatever a declared requirement shows of the used packages, a requirement that is not reported
shows. -/
theorem exists_survivor (identified : registry.Identified) (single : registry.SingleVersioned)
    (acyclic : (ReexportGraph.ofRegistry registry).Acyclic) (isUsed : package ∈ used)
    (declared : ∃ required ∈ m.requires, required.id = id) (shown : registry.Shows id package) :
    ∃ required ∈ m.requires, .requirement required ∉ reported m registry used ∧
      registry.Shows required.id package := by
  have relies : id ∈ Fields.keys (usedModules m registry used) :=
    mem_keys_usedModules.mpr ⟨declared, package, isUsed, shown⟩
  obtain ⟨start, isKey, path, highest⟩ := ReexportGraph.exists_start acyclic relies
  obtain ⟨startDeclared, _⟩ := mem_keys_usedModules.mp isKey
  obtain ⟨last, rfl, isLast⟩ := exists_isLastOf startDeclared
  have startShows : registry.Shows last.id package := shown.of_path identified single path
  refine ⟨last, mem_of_isLastOf isLast, ?_, startShows⟩
  intro isReported
  obtain ⟨_, _, _, idle | ⟨_, user, relies, above⟩⟩ := mem_reported_requirement.mp isReported
  · exact idle ⟨package, isUsed, startShows⟩
  · exact highest user (mem_keys_usedModules.mpr relies) above

/-- A requirement that is not reported stays when the reported entries are removed. -/
theorem requirement_stays (marked : m.Identified) {pruned : Module}
    (retains : m.Retains (reported m registry used) pruned) {required : ModuleImport}
    (declared : required ∈ m.requires)
    (unreported : .requirement required ∉ reported m registry used) :
    required ∈ pruned.requires := by
  refine retains.requires required declared fun other isReported sameMark => ?_
  have isOther := marked.requires other (mem_reported_requirement.mp isReported).1 required declared
    sameMark
  exact unreported (isOther ▸ isReported)

theorem package_stays (marked : m.Identified) {pruned : Module}
    (retains : m.Retains (reported m registry used) pruned) {imported : PackageImport}
    (declared : imported ∈ m.packageImports)
    (unreported : .packageImport imported ∉ reported m registry used) :
    imported ∈ pruned.packageImports := by
  refine retains.packages imported declared fun other isReported sameMark => ?_
  have isOther := marked.packages other (mem_reported_package.mp isReported).1 imported declared
    sameMark
  exact unreported (isOther ▸ isReported)

/-- Nobody notices that the reported entries are removed. -/
theorem discreet_remove {bench last : Workbench} {count : Nat} (marked : m.Identified)
    (onBench : bench.module? m.mark = some m) (current : bench.refresh registry = registry)
    (removal : (bench.remove m.mark ((reported m registry used).map .entry)).outcome =
      .ok (count, last)) :
    registry.Discreet fun n => (last.module? n.mark).getD n := by
  have hidden : ∀ required ∈ m.requires, ∀ other, .requirement other ∈ reported m registry used →
      other.mark = required.mark → required.reexported = false := by
    intro required declared other isReported same
    obtain ⟨otherDeclared, notReexported, _⟩ := mem_reported_requirement.mp isReported
    rwa [marked.requires other otherDeclared required declared same] at notReexported
  obtain ⟨_, _, removes, looks⟩ := Workbench.looksLike_remove onBench hidden
  obtain ⟨rfl, rfl⟩ := Prod.mk.inj (Except.ok.inj (removal.symm.trans removes))
  exact looks.discreet current

/-- Pruning hides no used package. When everything that an analysis of a module on the bench reports is
removed, each used package that was visible through a requirement or imported by name is still visible
through a requirement or imported by name, in the registry as it was and as the removal leaves it, provided
that requirements named as providers of used packages show them. -/
theorem remove_reported_hides_nothing {bench : Workbench} {oracle : Oracle} {monitor : Monitor}
    (hasId : m.hasId) (told : m.Readable) (readable : registry.Readable) (marked : m.Identified)
    (onBench : bench.module? m.mark = some m) (current : bench.refresh registry = registry)
    (identified : registry.Identified) (single : registry.SingleVersioned)
    (acyclic : (ReexportGraph.ofRegistry registry).Acyclic)
    (answers : (oracle.consult m).outcome = .ok used)
    (provided : ∀ imported ∈ m.packageImports, imported.name ∈ used →
      ∀ provider, imported.provider = some provider →
        (∃ required ∈ m.requires, required.id = provider) →
        registry.Shows provider imported.name)
    (uncancelled : ¬ monitor.Cancels (run m registry oracle)) :
    ∃ (findings : Findings) (count : Nat) (last : Workbench) (pruned : Module),
      (monitor.play (run m registry oracle)).1.outcome = .ok findings ∧
      (bench.remove m.mark (findings.unused.map .entry)).outcome = .ok (count, last) ∧
      last.module? m.mark = some pruned ∧
      ∀ package ∈ used,
        ((∃ required ∈ m.requires, registry.Shows required.id package) ∨
          ∃ imported ∈ m.packageImports, imported.name = package) →
        (∃ required ∈ pruned.requires, registry.Shows required.id package ∧
            (last.refresh registry).Shows required.id package) ∨
          ∃ imported ∈ pruned.packageImports, imported.name = package := by
  obtain ⟨count, last, pruned, removal, onLast, retains⟩ :=
    Workbench.remove_retains onBench (reported m registry used)
  have discreet := discreet_remove marked onBench current removal
  refine ⟨⟨m.id, reported m registry used, used, m.requires.length + m.packageImports.length⟩,
    count, last, pruned, ?_, removal, onLast, ?_⟩
  · rw [Monitor.play_eq_of_not_cancels uncancelled, run_outcome hasId told readable answers]
  have throughRequirement : ∀ package ∈ used, ∀ id, (∃ required ∈ m.requires, required.id = id) →
      registry.Shows id package → ∃ required ∈ pruned.requires,
        registry.Shows required.id package ∧ (last.refresh registry).Shows required.id package := by
    intro package isUsed id declared shown
    obtain ⟨survivor, member, unreported, shows⟩ :=
      exists_survivor identified single acyclic isUsed declared shown
    exact ⟨survivor, requirement_stays marked retains member unreported, shows,
      discreet.shows_iff.mpr shows⟩
  intro package isUsed visible
  rcases visible with ⟨required, declared, shown⟩ | ⟨imported, declared, rfl⟩
  · exact Or.inl (throughRequirement package isUsed required.id ⟨required, declared, rfl⟩ shown)
  · by_cases isReported : .packageImport imported ∈ reported m registry used
    · -- A used package is reported only when its provider is relied on, and that shows it.
      rcases (mem_reported_package.mp isReported).2 with
        ⟨_, notUsed⟩ | ⟨provider, named, relies, _⟩
      · exact absurd isUsed notUsed
      · exact Or.inl (throughRequirement imported.name isUsed provider relies
          (provided imported declared isUsed provider named relies))
    · exact Or.inr ⟨imported, package_stays marked retains declared isReported, rfl⟩

/-- A module that requires a facade and its library, and imports the package of the library by name. -/
def clientOfOne : Module :=
  { Module.plain 2 "client" "1.0" [.plain ⟨2, 0⟩ "library" false, .plain ⟨2, 1⟩ "facade" false] []
    with packages :=
      some [⟨⟨2, 0⟩, "library.api", [(PackageImport.providerKey, "library")], []⟩] }

/-- A facade that re-exports a library, and their client. -/
def facadeWithClient : Registry :=
  ⟨[("facade", [.plain 0 "facade" "1.0" [.plain ⟨0, 0⟩ "library" true] []]),
    ("library", [.plain 1 "library" "1.0" [] ["library.api"]]), ("client", [clientOfOne])]⟩

theorem edge_facadeWithClient {a b : String}
    (edge : (ReexportGraph.ofRegistry facadeWithClient).Edge a b) : a = "facade" ∧ b = "library" := by
  have edges : ReexportGraph.ofRegistry facadeWithClient = ⟨[("facade", ["library"])]⟩ := by decide
  rw [edges, ReexportGraph.Edge, ReexportGraph.successors, Fields.get?_cons] at edge
  split at edge
  case isTrue isFacade => exact ⟨isFacade.symm, by simpa using edge⟩
  case isFalse => simp at edge

theorem acyclic_facadeWithClient : (ReexportGraph.ofRegistry facadeWithClient).Acyclic := by
  intro id cycle
  obtain ⟨_, first, _⟩ := TransGen.head'_iff.mp cycle
  obtain ⟨_, _, last⟩ := TransGen.tail'_iff.mp cycle
  have isFacade := (edge_facadeWithClient first).1
  rw [(edge_facadeWithClient last).2] at isFacade
  exact absurd isFacade (by decide)

theorem singleVersioned_facadeWithClient : facadeWithClient.SingleVersioned := by
  intro id
  simp only [Registry.candidates, facadeWithClient, Fields.get?_cons]
  split
  · simp
  · split
    · simp
    · split <;> simp

/-- The library is re-exported by the facade and provides the import, so both declarations go; its
package stays visible through the facade, also in the registry that has the pruned client. -/
theorem remove_reported_hides_nothing_client :
    let bench := Workbench.ofModule clientOfOne
    clientOfOne.hasId = true ∧ clientOfOne.Identified ∧ bench.module? clientOfOne.mark = some clientOfOne ∧
      bench.refresh facadeWithClient = facadeWithClient ∧ facadeWithClient.Identified ∧
      facadeWithClient.SingleVersioned ∧ (ReexportGraph.ofRegistry facadeWithClient).Acyclic ∧
      ∃ (findings : Findings) (count : Nat) (last : Workbench) (pruned : Module),
        (Monitor.silent.play (run clientOfOne facadeWithClient (.fixed ["library.api"]))).1.outcome =
          .ok findings ∧
        (bench.remove clientOfOne.mark (findings.unused.map .entry)).outcome = .ok (count, last) ∧
        last.module? clientOfOne.mark = some pruned ∧
        ((∃ required ∈ pruned.requires, facadeWithClient.Shows required.id "library.api" ∧
            (last.refresh facadeWithClient).Shows required.id "library.api") ∨
          ∃ imported ∈ pruned.packageImports, imported.name = "library.api") := by
  intro bench
  have told : clientOfOne.Readable := ⟨[], rfl⟩
  have readable : facadeWithClient.Readable := Registry.readable_of_metadata (by decide)
  have marked : clientOfOne.Identified := ⟨by decide, by decide⟩
  have identified : facadeWithClient.Identified := by
    unfold Registry.Identified
    decide
  have libraryShows : facadeWithClient.Shows "library" "library.api" :=
    ⟨.plain 1 "library" "1.0" [] ["library.api"],
      (Registry.mem_visible_iff identified).mpr (Or.inl (by decide)), by decide⟩
  have provided : ∀ imported ∈ clientOfOne.packageImports, imported.name ∈ ["library.api"] →
      ∀ provider, imported.provider = some provider →
        (∃ required ∈ clientOfOne.requires, required.id = provider) →
        facadeWithClient.Shows provider imported.name := by
    intro imported member _ provider named _
    obtain rfl := List.mem_singleton.mp member
    obtain rfl : "library" = provider := Option.some.inj named
    exact libraryShows
  have uncancelled : ¬ Monitor.silent.Cancels
      (run clientOfOne facadeWithClient (.fixed ["library.api"])) :=
    Monitor.idle_silent.not_cancels (run_outcome rfl told readable rfl)
  have onBench : bench.module? clientOfOne.mark = some clientOfOne := Workbench.module?_ofModule _
  have current : bench.refresh facadeWithClient = facadeWithClient := by decide
  obtain ⟨findings, count, last, pruned, outcome, removal, onLast, keeps⟩ :=
    remove_reported_hides_nothing rfl told readable marked onBench current identified
      singleVersioned_facadeWithClient acyclic_facadeWithClient rfl provided uncancelled
  exact ⟨rfl, marked, onBench, current, identified, singleVersioned_facadeWithClient,
    acyclic_facadeWithClient, findings, count, last, pruned, outcome, removal, onLast,
    keeps "library.api" (by simp) (Or.inl ⟨.plain ⟨2, 0⟩ "library" false, by decide, libraryShows⟩)⟩

end Analysis

end Pruning
