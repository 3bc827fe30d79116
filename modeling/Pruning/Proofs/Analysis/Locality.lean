import Pruning.Proofs.Analysis.Classification
import Pruning.Proofs.Reexport.Locality
import Pruning.Proofs.Registry.Additions

/-!
# What an analysis looks at

An analysis looks up in the registry the ids that the module requires and those that they reach through
re-exports, and no others: registries with the same candidates for these ids give one script, event for
event (`Analysis.run_congr`). So neither the order in which modules were registered has an influence
(`Analysis.play_run_of_perm`), nor a module that the analyzed one cannot see
(`Analysis.play_run_of_unseen`).
-/

namespace Pruning

open Relation

/-- A requirement of the module is, or re-exports, the id. -/
def Module.Sees (m : Module) (registry : Registry) (id : String) : Prop :=
  ∃ required ∈ m.requires, ReflTransGen (ReexportGraph.ofRegistry registry).Edge required.id id

namespace Registry

variable {registry registry' : Registry} {id : String}

/-- The registries have the same modules for every id that `id` reaches. -/
def AgreeFrom (registry registry' : Registry) (id : String) : Prop :=
  ∀ reached, ReflTransGen (ReexportGraph.ofRegistry registry).Edge id reached →
    registry.candidates reached = registry'.candidates reached

theorem AgreeFrom.resolve_eq {reached : String} (agree : registry.AgreeFrom registry' id)
    (path : ReflTransGen (ReexportGraph.ofRegistry registry).Edge id reached) :
    registry.resolve reached = registry'.resolve reached := by
  rw [resolve, resolve, agree reached path]

theorem AgreeFrom.graph {stack : List String}
    (agree : ∀ start ∈ stack, registry.AgreeFrom registry' start) :
    (ReexportGraph.ofRegistry registry).AgreeFrom (.ofRegistry registry') stack := by
  intro start member reached path
  rw [ReexportGraph.successors_ofRegistry, ReexportGraph.successors_ofRegistry,
    (agree start member).resolve_eq path]

/-- What an id makes visible lies on the ids that it reaches. -/
theorem AgreeFrom.visible_eq (agree : registry.AgreeFrom registry' id) :
    registry.visible (.ofRegistry registry) id = registry'.visible (.ofRegistry registry') id := by
  have sameClosure := ReexportGraph.closure_congr (AgreeFrom.graph (by simpa using agree))
  rw [visible, visible, ← sameClosure]
  congr 1
  refine List.flatMap_congr fun reached visited => ?_
  have path := (ReexportGraph.mem_closure_iff _).mp visited
  rw [agree.resolve_eq path]
  split
  case isTrue same => rw [← same, agree reached path]
  case isFalse => rfl

end Registry

namespace Analysis

variable {m : Module} {registry registry' : Registry} {used : PackageSet}

/-! ## The parts -/

theorem classifyRequires_congr {requires : List ModuleImport}
    (agree : ∀ required ∈ requires, registry.AgreeFrom registry' required.id)
    (classified : Classified) :
    classifyRequires m used registry (.ofRegistry registry) classified requires =
      classifyRequires m used registry' (.ofRegistry registry') classified requires := by
  induction requires generalizing classified with
  | nil => rfl
  | cons required rest ih =>
    have same : required.isUnused used registry (.ofRegistry registry) =
        required.isUnused used registry' (.ofRegistry registry') := by
      rw [ModuleImport.isUnused, ModuleImport.isUnused,
        (agree required List.mem_cons_self).visible_eq]
    have later := ih fun other member => agree other (List.mem_cons_of_mem _ member)
    simp only [classifyRequires, same, later]

/-- The modules that are kept in mind as used are required. -/
theorem keys_of_classifyRequires {graph : ReexportGraph} {requires : List ModuleImport}
    {classified after : Classified} {id : String}
    (answers : (classifyRequires m used registry graph classified requires).outcome = .ok after)
    (kept : id ∈ Fields.keys after.usedModules) :
    id ∈ Fields.keys classified.usedModules ∨ ∃ required ∈ requires, required.id = id := by
  induction requires generalizing classified with
  | nil =>
    cases answers
    exact Or.inl kept
  | cons required rest ih =>
    rw [classifyRequires, poll, Script.outcome_event_bind] at answers
    cases unused : required.isUnused used registry graph with
    | error failure =>
      rw [unused, Script.outcome_bind_of_error _ rfl] at answers
      cases answers
    | ok isUnused =>
      rw [unused, Script.outcome_ofOutcome_bind_ok] at answers
      dsimp only at answers
      rw [Script.outcome_event_bind, tellCount, Script.outcome_event_bind] at answers
      rcases ih answers with before | ⟨other, member, isId⟩
      · cases isUnused with
        | true => exact Or.inl before
        | false =>
          rcases Fields.mem_keys_put.mp before with rfl | before
          · exact Or.inr ⟨required, List.mem_cons_self, rfl⟩
          · exact Or.inl before
      · exact Or.inr ⟨other, List.mem_cons_of_mem _ member, isId⟩

theorem minimize_congr {modules : UsedModules} {packages : List PackageImport} {owner : Option String}
    (agree : ∀ id ∈ Fields.keys modules, registry.AgreeFrom registry' id) :
    minimize modules packages (.ofRegistry registry) owner =
      minimize modules packages (.ofRegistry registry') owner := by
  have sameSteps := ReexportGraph.expansions_congr (Registry.AgreeFrom.graph agree)
  rw [minimize, minimize, contract, contract, sameSteps]

theorem search_congr (agree : ∀ required ∈ m.requires, registry.AgreeFrom registry' required.id) :
    search m registry used = search m registry' used := by
  rw [search, search]
  dsimp only
  refine Script.bind_congr fun _ _ => Script.bind_congr fun exported _ => ?_
  rw [classifyRequires_congr agree]
  refine Script.bind_congr fun classified classifies => ?_
  refine Script.bind_congr fun sorted sorts => Script.bind_congr fun _ _ => ?_
  rw [classifyPackages_outcome] at sorts
  cases sorts
  rw [minimize_congr fun id kept => ?_]
  rcases keys_of_classifyRequires classifies kept with none | ⟨required, declared, rfl⟩
  · cases none
  · exact agree required declared

/-- Registries with the same candidates for every id that the module sees give one script. -/
theorem run_congr (oracle : Oracle)
    (agree : ∀ id, m.Sees registry id → registry.candidates id = registry'.candidates id) :
    run m registry oracle = run m registry' oracle := by
  have found (used : PackageSet) : search m registry used = search m registry' used :=
    search_congr fun required declared reached path => agree reached ⟨required, declared, path⟩
  simp only [run, found]

/-! ## The order of registrations -/

/-- Modules give the same analysis in whatever order they are registered, when no two of one id have
equal versions. -/
theorem play_run_of_perm [Version.Casing] {modules modules' : List Module}
    (perm : modules.Perm modules')
    (addable : ∀ m ∈ modules, m.hasId = true ∧ m.Versioned)
    (unambiguous : Registry.Unambiguous modules) :
    ∃ registry registry', Registry.ofModules modules = .ok registry ∧
      Registry.ofModules modules' = .ok registry' ∧
      ∀ (m : Module) (oracle : Oracle) (monitor : Monitor),
        monitor.play (run m registry oracle) = monitor.play (run m registry' oracle) := by
  have addable' : ∀ m ∈ modules', m.hasId = true ∧ m.Versioned :=
    fun m member => addable m (perm.mem_iff.mpr member)
  refine ⟨_, _, Registry.addAll_of_sound Registry.sound_empty addable,
    Registry.addAll_of_sound Registry.sound_empty addable', fun m oracle monitor => ?_⟩
  rw [run_congr oracle fun id _ => Registry.candidates_insertAll_of_perm perm
    (fun m member => (addable m member).2) unambiguous]

section Deliveries

attribute [local instance] Version.Casing.ascii

/-- A facade, and after it the versions of the library that it re-exports, the older one first. -/
def deliveries : List Module :=
  [.plain 0 "facade" "1.0" [.plain ⟨0, 0⟩ "library" true] [],
    .plain 1 "library" "1.0" [] ["library.api", "library.legacy"],
    .plain 2 "library" "2.0" [] ["library.api"]]

theorem addable_deliveries : ∀ m ∈ deliveries, m.hasId = true ∧ m.Versioned := by
  decide

theorem unambiguous_deliveries : Registry.Unambiguous deliveries := by
  have keys : deliveries.Pairwise fun a b => a.id = b.id → a.versionKey ≠ b.versionKey := by decide
  refine keys.imp fun differ sameId => ?_
  rintro ⟨v, w, told, told', same⟩
  refine differ sameId ?_
  rw [Module.versionKey_eq told, Module.versionKey_eq told', same]

theorem ofModules_deliveries : Registry.ofModules deliveries = .ok Registry.facadeOfTwo := by
  have newerFirst : (Module.plain 1 "library" "1.0" [] ["library.api", "library.legacy"]).mayPrecede
      (.plain 2 "library" "2.0" [] ["library.api"]) = false := by
    decide +kernel
  rw [Registry.ofModules, Registry.addAll_of_sound Registry.sound_empty addable_deliveries]
  simp [Registry.insertAll, deliveries, Registry.insert, Registry.candidates, Registry.empty,
    Fields.put, Registry.facadeOfTwo, List.mergeSort, newerFirst]

/-- Delivered from the last to the first, the modules make another registry, in which the library stands
before the facade; every analysis is the same. -/
theorem play_run_of_perm_deliveries :
    deliveries.Perm deliveries.reverse ∧ (∀ m ∈ deliveries, m.hasId = true ∧ m.Versioned) ∧
      Registry.Unambiguous deliveries ∧
      ∃ registry, Registry.ofModules deliveries.reverse = .ok registry ∧
        registry ≠ Registry.facadeOfTwo ∧
        ∀ (m : Module) (oracle : Oracle) (monitor : Monitor),
          monitor.play (run m Registry.facadeOfTwo oracle) = monitor.play (run m registry oracle) := by
  have perm : deliveries.Perm deliveries.reverse := (List.reverse_perm deliveries).symm
  obtain ⟨registry, registry', built, built', same⟩ :=
    play_run_of_perm perm addable_deliveries unambiguous_deliveries
  obtain rfl : Registry.facadeOfTwo = registry :=
    Except.ok.inj (ofModules_deliveries.symm.trans built)
  refine ⟨perm, addable_deliveries, unambiguous_deliveries, registry', built', ?_, same⟩
  rintro rfl
  exact absurd built' (by decide +kernel)

end Deliveries

/-! ## Modules out of sight -/

/-- A module whose id the analyzed module does not see can be registered, and leaves the analysis as it
was. -/
theorem play_run_of_unseen [Version.Casing] {modules : List Module} {m other : Module}
    (built : Registry.ofModules modules = .ok registry) (hasId : other.hasId)
    (versioned : other.Versioned) (unseen : ¬ m.Sees registry other.id) :
    (registry.add other).2 = .ok () ∧ ∀ (oracle : Oracle) (monitor : Monitor),
      monitor.play (run m (registry.add other).1 oracle) = monitor.play (run m registry oracle) := by
  have added := Registry.add_of_sound (Registry.sound_of_ofModules built) hasId versioned
  have agree : ∀ id, m.Sees registry id →
      registry.candidates id = (registry.insert other).candidates id := by
    intro id sees
    have apart : other.id ≠ id := fun same => unseen (same ▸ sees)
    rw [Registry.candidates_insert, if_neg apart]
  rw [added]
  exact ⟨rfl, fun oracle monitor => by rw [run_congr oracle agree]⟩

section Outsider

attribute [local instance] Version.Casing.ascii

/-- A second facade of the library, whose own exports end inside quotes. -/
def outsider : Module :=
  ⟨3, "outsider", "1.0", [.plain ⟨3, 0⟩ "library" true], none, [(Header.exportPackage, "\"outsider.api")],
    none, none, "\n"⟩

/-- A module that requires the library and the facade. -/
def insider : Module :=
  .plain 4 "insider" "1.0" [.plain ⟨4, 0⟩ "library" false, .plain ⟨4, 1⟩ "facade" false] []

/-- The second facade re-exports what the insider requires, but the insider does not see it: neither its
edge into the graph nor its malformed exports change an analysis. -/
theorem play_run_of_unseen_outsider :
    Registry.ofModules deliveries = .ok Registry.facadeOfTwo ∧ outsider.hasId = true ∧
      outsider.Versioned ∧ ¬ outsider.Readable ∧
      ¬ insider.Sees Registry.facadeOfTwo outsider.id ∧
      (Registry.facadeOfTwo.add outsider).2 = .ok () ∧
      ∀ (oracle : Oracle) (monitor : Monitor),
        monitor.play (run insider (Registry.facadeOfTwo.add outsider).1 oracle) =
          monitor.play (run insider Registry.facadeOfTwo oracle) := by
  have versioned : outsider.Versioned := ⟨⟨0, [1, 0], none, none, none, none⟩, by decide⟩
  have malformed : ¬ outsider.Readable := by
    rintro ⟨names, told⟩
    have refused : outsider.exports.isOk = false := by decide
    rw [told] at refused
    cases refused
  have unseen : ¬ insider.Sees Registry.facadeOfTwo outsider.id := by
    rintro ⟨required, declared, path⟩
    have visited := (ReexportGraph.mem_closure_iff _).mpr path
    have library : (ReexportGraph.ofRegistry Registry.facadeOfTwo).closure "library" = ["library"] := by
      cbv
    have facade : (ReexportGraph.ofRegistry Registry.facadeOfTwo).closure "facade" =
        ["facade", "library"] := by
      cbv
    rcases List.mem_cons.mp declared with rfl | declared
    · exact absurd (library ▸ visited) (by decide)
    · obtain rfl := List.mem_singleton.mp declared
      exact absurd (facade ▸ visited) (by decide)
  exact ⟨ofModules_deliveries, rfl, versioned, malformed, unseen,
    play_run_of_unseen ofModules_deliveries rfl versioned unseen⟩

end Outsider

end Analysis

end Pruning
