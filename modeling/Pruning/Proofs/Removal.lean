import Mathlib.Data.List.Basic
import Pruning.Proofs.Script
import Pruning.Removal

/-!
# What a removal changes

A step that removes a declaration either takes a requirement out of one module, or a package import out
of the module that holds it (`removeOne_cases`); every other selection is passed over. What all such
steps keep, a whole removal keeps (`remove_invariant`), so declarations that are not selected stay
(`Module.remove_keeps`).
-/

namespace Pruning

namespace Module

/-- The module without its first requirement of a mark. -/
def withoutRequirement (mark : Mark) (m : Module) : Module :=
  { m with requires := m.requires.eraseP fun declared => declared.mark = mark }

/-- The module without its first package import of a mark. -/
def withoutPackage (mark : Mark) (m : Module) : Module :=
  { m with packages := m.packages.map fun packages =>
      packages.eraseP fun declared => declared.mark = mark }

@[simp]
theorem withoutRequirement_mark (mark : Mark) (m : Module) :
    (m.withoutRequirement mark).mark = m.mark :=
  rfl

@[simp]
theorem withoutPackage_mark (mark : Mark) (m : Module) : (m.withoutPackage mark).mark = m.mark :=
  rfl

@[simp]
theorem withoutPackage_packageImports (mark : Mark) (m : Module) :
    (m.withoutPackage mark).packageImports =
      m.packageImports.eraseP fun declared => declared.mark = mark := by
  rw [withoutPackage, packageImports, packageImports]
  cases m.packages <;> rfl

end Module

namespace Workbench

variable {bench bench' : Workbench} {m : Module} {selection : Selection} {mark : Nat}

/-- A step that succeeds takes a requirement out of the module at hand, or a package import out of the
module that holds it. -/
theorem removeOne_cases (removes : bench.removeOne m selection = .ok bench') :
    (∃ required, selection = .entry (.requirement required) ∧
      (∃ declared ∈ m.requires, declared.mark = required.mark) ∧
      bench' = bench.update m.mark (Module.withoutRequirement required.mark)) ∨
    ∃ package holder, selection = .entry (.packageImport package) ∧
      (bench.holder? package.mark).bind bench.module? = some holder ∧
      (∃ declared ∈ holder.packageImports, declared.mark = package.mark) ∧
      bench' = (bench.update holder.mark (Module.withoutPackage package.mark)).detach
        package.mark := by
  match selection with
  | .entry (.requirement required) =>
    rw [removeOne, removeRequirement] at removes
    split at removes
    case isTrue declares =>
      refine Or.inl ⟨required, rfl, by simpa using declares, ?_⟩
      cases removes
      rfl
    case isFalse => cases removes
  | .entry (.packageImport package) =>
    rw [removeOne] at removes
    split at removes
    case h_1 => cases removes
    case h_2 holder held =>
      rw [removePackage] at removes
      split at removes
      case isTrue declares =>
        refine Or.inr ⟨package, holder, rfl, held, by simpa using declares, ?_⟩
        cases removes
        rfl
      case isFalse => cases removes
  | .foreign value => cases removes

theorem module?_update {f : Module → Module} (sameMark : ∀ m, (f m).mark = m.mark)
    (target : Nat) : (bench.update target f).module? mark =
      (bench.module? mark).map fun m => if m.mark = target then f m else m := by
  rw [module?, update, List.find?_map, module?]
  congr 2
  funext m
  simp only [Function.comp_apply]
  split
  case isTrue => rw [sameMark]
  case isFalse => rfl

theorem module?_detach (package : Mark) :
    (bench.detach package).module? mark = bench.module? mark :=
  rfl

/-- What each successful step keeps, a removal keeps; and it always answers. The steps are made in the
module with the mark. -/
theorem remove_invariant {P : Workbench → Prop} {selections : List Selection}
    (kept : ∀ selection ∈ selections, ∀ bench bench' m, P bench → bench.module? mark = some m →
      bench.removeOne m selection = .ok bench' → P bench')
    (start : P bench) :
    ∃ count bench', (remove mark bench selections).outcome = .ok (count, bench') ∧ P bench' := by
  induction selections generalizing bench with
  | nil => exact ⟨0, bench, rfl, start⟩
  | cons selection rest ih =>
    have keptRest := fun other later => kept other (List.mem_cons_of_mem _ later)
    rw [remove]
    cases onBench : bench.module? mark with
    | none => exact ⟨0, bench, rfl, start⟩
    | some m =>
      dsimp only
      cases removes : bench.removeOne m selection with
      | error reason =>
        dsimp only
        rw [Script.outcome_note_bind]
        exact ih keptRest start
      | ok next =>
        obtain ⟨count, last, outcome, keeps⟩ :=
          ih keptRest (kept selection List.mem_cons_self bench next m start onBench removes)
        dsimp only
        rw [Script.outcome_note_bind, Script.outcome_bind_of_ok _ outcome]
        exact ⟨count + 1, last, rfl, keeps⟩

end Workbench

/-! ## What stays in a module -/

/-- `m.Retains entries pruned`: every declaration of `m` whose mark no entry carries is in `pruned`. -/
structure Module.Retains (m : Module) (entries : List Entry) (pruned : Module) : Prop where
  requires : ∀ declared ∈ m.requires,
    (∀ required, .requirement required ∈ entries → required.mark ≠ declared.mark) →
    declared ∈ pruned.requires
  packages : ∀ declared ∈ m.packageImports,
    (∀ package, .packageImport package ∈ entries → package.mark ≠ declared.mark) →
    declared ∈ pruned.packageImports

namespace Module.Retains

variable {m pruned : Module} {entries : List Entry}

theorem withoutRequirement (retains : m.Retains entries pruned) {required : ModuleImport}
    (selected : .requirement required ∈ entries) :
    m.Retains entries (pruned.withoutRequirement required.mark) where
  requires declared member unselected := by
    refine (List.mem_eraseP_of_neg ?_).mpr (retains.requires declared member unselected)
    simpa using (unselected required selected).symm
  packages := retains.packages

theorem withoutPackage (retains : m.Retains entries pruned) {package : PackageImport}
    (selected : .packageImport package ∈ entries) :
    m.Retains entries (pruned.withoutPackage package.mark) where
  requires := retains.requires
  packages declared member unselected := by
    rw [withoutPackage_packageImports]
    refine (List.mem_eraseP_of_neg ?_).mpr (retains.packages declared member unselected)
    simpa using (unselected package selected).symm

end Module.Retains

namespace Workbench

variable {bench bench' : Workbench} {m n : Module} {entries : List Entry} {mark : Nat}

/-- The module with a mark is on the bench, with all declarations of `m` that are not selected. -/
def Holds (m : Module) (entries : List Entry) (mark : Nat) (bench : Workbench) : Prop :=
  ∃ pruned, bench.module? mark = some pruned ∧ m.Retains entries pruned

theorem Holds.removeOne (holds : Holds m entries mark bench) {selection : Selection}
    (selected : selection ∈ entries.map Selection.entry)
    (removes : bench.removeOne n selection = .ok bench') : Holds m entries mark bench' := by
  obtain ⟨pruned, onBench, retains⟩ := holds
  rcases removeOne_cases removes with
    ⟨required, rfl, _, rfl⟩ | ⟨package, holder, rfl, _, _, rfl⟩
  · have isEntry : .requirement required ∈ entries := by simpa using selected
    rw [Holds, module?_update (Module.withoutRequirement_mark _), onBench]
    refine ⟨_, rfl, ?_⟩
    dsimp only
    split
    case isTrue => exact retains.withoutRequirement isEntry
    case isFalse => exact retains
  · have isEntry : .packageImport package ∈ entries := by simpa using selected
    rw [Holds, module?_detach, module?_update (Module.withoutPackage_mark _), onBench]
    refine ⟨_, rfl, ?_⟩
    dsimp only
    split
    case isTrue => exact retains.withoutPackage isEntry
    case isFalse => exact retains

theorem module?_ofModule (m : Module) : (ofModule m).module? m.mark = some m := by
  simp [ofModule, lay, empty, module?]

/-- Declarations that are not selected stay in a module on the bench. -/
theorem remove_retains (onBench : bench.module? mark = some m) (entries : List Entry) :
    ∃ count last pruned, (remove mark bench (entries.map Selection.entry)).outcome = .ok (count, last) ∧
      last.module? mark = some pruned ∧ m.Retains entries pruned := by
  have start : Holds m entries mark bench :=
    ⟨m, onBench, fun _ member _ => member, fun _ member _ => member⟩
  obtain ⟨count, last, outcome, pruned, onLast, retains⟩ :=
    remove_invariant (fun _ selected _ _ _ holds _ removes => holds.removeOne selected removes) start
  exact ⟨count, last, pruned, outcome, onLast, retains⟩

end Workbench

/-- Declarations that are not selected stay in the module. -/
theorem Module.remove_keeps (m : Module) (entries : List Entry) :
    ∃ count pruned, (m.remove entries).outcome = .ok (count, pruned) ∧
      m.Retains entries pruned := by
  obtain ⟨count, bench, pruned, outcome, onBench, retains⟩ :=
    Workbench.remove_retains (Workbench.module?_ofModule m) entries
  refine ⟨count, pruned, ?_, retains⟩
  rw [Module.remove, Script.outcome_bind_of_ok _ outcome]
  dsimp only
  rw [Script.outcome_pure, onBench]
  rfl

end Pruning
