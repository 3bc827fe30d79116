import Pruning.Proofs.Removal
import Pruning.Proofs.Visibility

/-!
# Edits that nobody notices

An edit of registered modules is discreet when it keeps their marks, their exports and what they
re-export (`Module.LooksLike`). After such an edit the re-export graph is the same
(`Registry.Discreet.graph`), and every requirement shows the same packages as before
(`Registry.Discreet.shows_iff`). A removal that selects no re-exported requirement is such an edit, of
whatever modules it takes package imports out (`Workbench.looksLike_remove`).
-/

namespace Pruning

/-! ## What others see of a module -/

/-- Others see the same of both modules. -/
structure Module.LooksLike (m edited : Module) : Prop where
  mark : edited.mark = m.mark
  exports : edited.exports = m.exports
  reexports : ∀ id, ReexportGraph.reexports edited id = ReexportGraph.reexports m id

namespace Module.LooksLike

variable {m edited last : Module} {mark : Mark}

theorem refl (m : Module) : m.LooksLike m :=
  ⟨rfl, rfl, fun _ => rfl⟩

theorem trans (first : m.LooksLike edited) (second : edited.LooksLike last) : m.LooksLike last :=
  ⟨second.mark.trans first.mark, second.exports.trans first.exports,
    fun id => (second.reexports id).trans (first.reexports id)⟩

theorem withoutPackage (mark : Mark) (m : Module) : m.LooksLike (m.withoutPackage mark) :=
  ⟨rfl, rfl, fun _ => rfl⟩

theorem filter_eraseP {α : Type} {taken kept : α → Bool} {items : List α}
    (apart : ∀ item ∈ items, taken item = true → kept item = false) :
    (items.eraseP taken).filter kept = items.filter kept := by
  induction items with
  | nil => rfl
  | cons item rest ih =>
    cases found : taken item with
    | true =>
      have dropped : ¬ kept item = true := by simp [apart item List.mem_cons_self found]
      rw [List.eraseP_cons_of_pos found, List.filter_cons_of_neg dropped]
    | false =>
      rw [List.eraseP_cons_of_neg (by simp [found]), List.filter_cons, List.filter_cons,
        ih fun other later => apart other (List.mem_cons_of_mem _ later)]

/-- A requirement that is not re-exported can be taken out. -/
theorem withoutRequirement
    (hidden : ∀ required ∈ m.requires, required.mark = mark → required.reexported = false) :
    m.LooksLike (m.withoutRequirement mark) where
  mark := rfl
  exports := rfl
  reexports id := by
    have apart : ∀ required ∈ m.requires, decide (required.mark = mark) = true →
        (required.reexported && !required.id.isEmpty && required.id != id) = false := by
      intro required declared selected
      rw [hidden required declared (of_decide_eq_true selected), Bool.false_and, Bool.false_and]
    rw [ReexportGraph.reexports, Module.withoutRequirement]
    exact congrArg (List.map ModuleImport.id) (filter_eraseP apart)

end Module.LooksLike

namespace Workbench

variable {bench last : Workbench} {m : Module} {mark : Nat}

/-- The edited bench has the modules of the bench. They look as they did, and have no new requirements. -/
structure LooksLike (bench edited : Workbench) : Prop where
  found : ∀ mark m, bench.module? mark = some m →
    ∃ m', edited.module? mark = some m' ∧ m.LooksLike m' ∧ m'.requires ⊆ m.requires
  missing : ∀ mark, bench.module? mark = none → edited.module? mark = none

/-- A bench looks as before when one of its modules is changed into one that looks the same. -/
theorem LooksLike.update (looks : bench.LooksLike last) {f : Module → Module} {target : Nat}
    (sameMark : ∀ m, (f m).mark = m.mark)
    (same : ∀ m n, bench.module? target = some n → last.module? target = some m →
      m.requires ⊆ n.requires → m.LooksLike (f m) ∧ (f m).requires ⊆ m.requires) :
    bench.LooksLike (last.update target f) where
  found mark n held := by
    obtain ⟨m, onLast, seen, fewer⟩ := looks.found mark n held
    have marked : m.mark = mark := by simpa using List.find?_some onLast
    rw [module?_update sameMark, onLast, Option.map_some]
    by_cases isTarget : m.mark = target
    · obtain rfl : mark = target := marked.symm.trans isTarget
      obtain ⟨seen', fewer'⟩ := same m n held onLast fewer
      exact ⟨f m, by rw [if_pos isTarget], seen.trans seen', List.Subset.trans fewer' fewer⟩
    · exact ⟨m, by rw [if_neg isTarget], seen, fewer⟩
  missing mark absent := by rw [module?_update sameMark, looks.missing mark absent, Option.map_none]

theorem LooksLike.detach (looks : bench.LooksLike last) (package : Mark) :
    bench.LooksLike (last.detach package) :=
  ⟨looks.found, looks.missing⟩

/-- A removal that selects no re-exported requirement of its module leaves the bench as it looked. -/
theorem looksLike_remove {entries : List Entry} (onBench : bench.module? mark = some m)
    (hidden : ∀ required ∈ m.requires, ∀ other, .requirement other ∈ entries →
      other.mark = required.mark → required.reexported = false) :
    ∃ count last, (remove mark bench (entries.map Selection.entry)).outcome = .ok (count, last) ∧
      bench.LooksLike last := by
  have start : bench.LooksLike bench :=
    ⟨fun _ n held => ⟨n, held, .refl n, List.Subset.refl _⟩, fun _ absent => absent⟩
  refine remove_invariant (P := bench.LooksLike)
    (fun selection selected last next n looks held removes => ?_) start
  have marked : n.mark = mark := by simpa using List.find?_some held
  rcases removeOne_cases removes with ⟨required, rfl, -, rfl⟩ | ⟨package, holder, rfl, -, -, rfl⟩
  · have isEntry : .requirement required ∈ entries := by simpa using selected
    refine looks.update (Module.withoutRequirement_mark _) fun m' n' onStart onLast fewer => ?_
    rw [marked, onBench] at onStart
    cases onStart
    refine ⟨.withoutRequirement fun other declared same => ?_, List.eraseP_subset⟩
    exact hidden other (fewer declared) required isEntry same.symm
  · refine (looks.update (Module.withoutPackage_mark _) fun m' n' _ _ _ => ?_).detach package.mark
    exact ⟨.withoutPackage _ _, List.Subset.refl _⟩

end Workbench

/-! ## Edits of a registry -/

namespace Registry

/-- The registry with every module changed. -/
def map (f : Module → Module) (registry : Registry) : Registry :=
  ⟨registry.entries.map fun versions => (versions.1, versions.2.map f)⟩

/-- The edit keeps of every registered module what others see of it. -/
def Discreet (registry : Registry) (f : Module → Module) : Prop :=
  ∀ m ∈ registry.modules, m.LooksLike (f m)

variable {registry : Registry} {f : Module → Module} {id package : String}

theorem ids_map : (registry.map f).ids = registry.ids := by
  simp [ids, map, Fields.keys]

theorem candidates_map : (registry.map f).candidates id = (registry.candidates id).map f := by
  rw [candidates, candidates, map, Fields.get?_map]
  cases Fields.get? id registry.entries <;> rfl

theorem resolve_map : (registry.map f).resolve id = (registry.resolve id).map f := by
  rw [resolve, resolve, candidates_map, List.head?_map]

theorem mem_modules_map {m : Module} :
    m ∈ (registry.map f).modules ↔ ∃ original ∈ registry.modules, f original = m := by
  have byEntries : (registry.map f).modules = registry.modules.map f := by
    rw [modules, map, modules, List.flatMap_map, List.map_flatMap]
  rw [byEntries, List.mem_map]

theorem distinct_map {modules : List Module} (mark : ∀ m ∈ modules, (f m).mark = m.mark)
    (seen : List Nat) : distinct seen (modules.map f) = (distinct seen modules).map f := by
  induction modules generalizing seen with
  | nil => rfl
  | cons m rest ih =>
    have later := ih fun other held => mark other (List.mem_cons_of_mem _ held)
    rw [List.map_cons, distinct, distinct, mark m List.mem_cons_self, later, later]
    split <;> rfl

namespace Discreet

theorem graph (discreet : registry.Discreet f) :
    ReexportGraph.ofRegistry (registry.map f) = ReexportGraph.ofRegistry registry := by
  rw [ReexportGraph.ofRegistry, ReexportGraph.ofRegistry, ids_map]
  congr 2
  funext id
  rw [resolve_map]
  cases resolved : registry.resolve id with
  | none => rfl
  | some m =>
    have registered : m ∈ registry.modules :=
      mem_modules_of_candidates (mem_candidates_of_resolve resolved)
    simp only [Option.map_some, (discreet m registered).reexports id]

theorem visible (discreet : registry.Discreet f) :
    (registry.map f).visible (.ofRegistry (registry.map f)) id =
      (registry.visible (.ofRegistry registry) id).map f := by
  have lookedUp : (registry.map f).lookedUp (.ofRegistry registry) id =
      (registry.lookedUp (.ofRegistry registry) id).map f := by
    rw [Registry.lookedUp, Registry.lookedUp, List.map_flatMap]
    congr 1
    funext reached
    rw [candidates_map, resolve_map]
    split
    case isTrue => rfl
    case isFalse => cases registry.resolve reached <;> rfl
  have marks : ∀ m ∈ registry.lookedUp (.ofRegistry registry) id, (f m).mark = m.mark :=
    fun m found => (discreet m (mem_modules_of_lookedUp found)).mark
  rw [discreet.graph]
  exact (congrArg (distinct []) lookedUp).trans (distinct_map marks [])

theorem exported (discreet : registry.Discreet f) {m : Module} (registered : m ∈ registry.modules) :
    (f m).exported = m.exported := by
  rw [Module.exported, Module.exported, (discreet m registered).exports]

/-- Every requirement shows what it showed before the edit. -/
theorem shows_iff (discreet : registry.Discreet f) :
    (registry.map f).Shows id package ↔ registry.Shows id package := by
  rw [Shows, Shows, discreet.visible]
  constructor
  · rintro ⟨_, shown, exports⟩
    obtain ⟨m, visible, rfl⟩ := List.mem_map.mp shown
    exact ⟨m, visible, discreet.exported (mem_modules_of_visible visible) ▸ exports⟩
  · rintro ⟨m, visible, exports⟩
    exact ⟨f m, List.mem_map_of_mem visible,
      (discreet.exported (mem_modules_of_visible visible)).symm ▸ exports⟩

theorem readable (discreet : registry.Discreet f) (readable : registry.Readable) :
    (registry.map f).Readable := by
  intro m registered
  obtain ⟨original, member, rfl⟩ := mem_modules_map.mp registered
  obtain ⟨names, told⟩ := readable original member
  exact ⟨names, (discreet original member).exports.trans told⟩

end Discreet

end Registry

namespace Workbench

variable {bench last : Workbench} {registry : Registry} {m : Module}

/-- A registry that shows the modules as they are on the bench shows each of them unedited. -/
theorem getD_module?_of_refresh (current : bench.refresh registry = registry)
    (registered : m ∈ registry.modules) : (bench.module? m.mark).getD m = m := by
  obtain ⟨versions, entered, held⟩ := List.mem_flatMap.mp registered
  have entries : (registry.entries.map fun versions =>
      (versions.1, versions.2.map fun m => (bench.module? m.mark).getD m)) =
      registry.entries.map id := by
    rw [List.map_id]
    exact congrArg Registry.entries current
  have unedited := congrArg Prod.snd (List.map_inj_left.mp entries versions entered)
  have same : versions.2.map (fun m => (bench.module? m.mark).getD m) = versions.2.map id := by
    rw [List.map_id]
    exact unedited
  exact List.map_inj_left.mp same m held

/-- Nobody notices an edit of a bench that looks as before. -/
theorem LooksLike.discreet (looks : bench.LooksLike last) (current : bench.refresh registry = registry) :
    registry.Discreet fun m => (last.module? m.mark).getD m := by
  intro m registered
  dsimp only
  have unedited := getD_module?_of_refresh current registered
  cases onBench : bench.module? m.mark with
  | none =>
    rw [looks.missing m.mark onBench]
    exact .refl m
  | some n =>
    rw [onBench, Option.getD_some] at unedited
    subst unedited
    obtain ⟨edited, onLast, seen, -⟩ := looks.found n.mark n onBench
    rw [onLast]
    exact seen

end Workbench

end Pruning
