import Pruning.Proofs.Removal

/-!
# Removals that do not fail

A module whose declarations are listed once, and whose package imports belong to it, loses exactly what
is selected of it: each selection of one of its declarations succeeds, and it stays such a module
(`Workbench.Carries.removeOne`). A removal of different declarations therefore counts them all and takes
out nothing else, neither there nor from other modules (`Workbench.Carries.remove`).
-/

namespace Pruning

/-- What an entry selects, by its identity. -/
inductive Target where
  | requirement (mark : Mark)
  | package (mark : Mark)
  deriving DecidableEq

/-- What an entry selects. -/
def Entry.target : Entry → Target
  | .requirement required => .requirement required.mark
  | .packageImport package => .package package.mark

theorem eraseP_mark_eq_filter {α : Type} (markOf : α → Mark) {items : List α}
    (distinct : (items.map markOf).Nodup) (mark : Mark) :
    (items.eraseP fun item => markOf item = mark) = items.filter fun item => markOf item ≠ mark := by
  induction items with
  | nil => rfl
  | cons item rest ih =>
    rw [List.map_cons, List.nodup_cons] at distinct
    by_cases same : markOf item = mark
    · have others : ∀ other ∈ rest, markOf other ≠ mark := fun other later isMark =>
        distinct.1 (List.mem_map.mpr ⟨other, later, isMark.trans same.symm⟩)
      rw [List.eraseP_cons_of_pos (by simpa using same), List.filter_cons_of_neg (by simpa using same),
        List.filter_eq_self.mpr fun other later => by simpa using others other later]
    · rw [List.eraseP_cons_of_neg (by simpa using same), List.filter_cons_of_pos (by simpa using same),
        ih distinct.2]

namespace Module

/-- The module declares what is selected. -/
def Has (m : Module) : Target → Prop
  | .requirement mark => ∃ required ∈ m.requires, required.mark = mark
  | .package mark => ∃ package ∈ m.packageImports, package.mark = mark

/-- The module without its selected declarations. -/
def without (targets : List Target) (m : Module) : Module :=
  { m with
    requires := m.requires.filter fun required => .requirement required.mark ∉ targets
    packages := m.packages.map fun packages =>
      packages.filter fun package => .package package.mark ∉ targets }

variable {m : Module} {targets : List Target} {mark : Mark}

@[simp]
theorem mark_without : (m.without targets).mark = m.mark :=
  rfl

theorem mem_requires_without {required : ModuleImport} :
    required ∈ (m.without targets).requires ↔
      required ∈ m.requires ∧ .requirement required.mark ∉ targets := by
  simp [without]

theorem packageImports_without : (m.without targets).packageImports =
    m.packageImports.filter fun package => .package package.mark ∉ targets := by
  rw [without, packageImports, packageImports]
  cases m.packages <;> rfl

theorem mem_packageImports_without {package : PackageImport} :
    package ∈ (m.without targets).packageImports ↔
      package ∈ m.packageImports ∧ .package package.mark ∉ targets := by
  simp [packageImports_without]

theorem without_nil : m.without [] = m := by
  cases m with
  | mk mark id version requires packages => cases packages <;> simp [without]

theorem without_without (others : List Target) :
    (m.without targets).without others = m.without (targets ++ others) := by
  have both (target : Target) : (decide (target ∉ others) && decide (target ∉ targets)) =
      decide (target ∉ targets ++ others) := by
    simp [Bool.and_comm]
  simp only [without, List.filter_filter, Option.map_map, Function.comp_def, both]

theorem withoutRequirement_eq (distinct : (m.requires.map ModuleImport.mark).Nodup) :
    m.withoutRequirement mark = m.without [.requirement mark] := by
  cases m with
  | mk owner id version requires packages =>
    rw [withoutRequirement, eraseP_mark_eq_filter ModuleImport.mark distinct]
    cases packages <;> simp [without]

theorem withoutPackage_eq (distinct : (m.packageImports.map PackageImport.mark).Nodup) :
    m.withoutPackage mark = m.without [.package mark] := by
  cases m with
  | mk owner id version requires packages =>
    cases packages with
    | none => simp [withoutPackage, without]
    | some packages =>
      have erased := eraseP_mark_eq_filter PackageImport.mark distinct mark
      simp only [packageImports, Option.getD_some] at erased
      simp [withoutPackage, without, erased]

theorem has_without_iff {target : Target} :
    (m.without targets).Has target ↔ m.Has target ∧ target ∉ targets := by
  cases target with
  | requirement mark =>
    constructor
    · rintro ⟨required, declared, rfl⟩
      obtain ⟨declared, unselected⟩ := mem_requires_without.mp declared
      exact ⟨⟨required, declared, rfl⟩, unselected⟩
    · rintro ⟨⟨required, declared, rfl⟩, unselected⟩
      exact ⟨required, mem_requires_without.mpr ⟨declared, unselected⟩, rfl⟩
  | package mark =>
    constructor
    · rintro ⟨package, declared, rfl⟩
      obtain ⟨declared, unselected⟩ := mem_packageImports_without.mp declared
      exact ⟨⟨package, declared, rfl⟩, unselected⟩
    · rintro ⟨⟨package, declared, rfl⟩, unselected⟩
      exact ⟨package, mem_packageImports_without.mpr ⟨declared, unselected⟩, rfl⟩

end Module

namespace Workbench

variable {bench : Workbench} {m : Module}

theorem holder?_detach {package other : Mark} (differs : other ≠ package) :
    (bench.detach package).holder? other = bench.holder? other := by
  rw [holder?, detach, List.find?_filter, holder?]
  congr 2
  funext holder
  by_cases same : holder.1 = other
  · simp [same, differs]
  · simp [same]

/-- The module lies on the bench, lists each of its declarations once, and its package imports belong to
it. -/
structure Carries (bench : Workbench) (m : Module) : Prop where
  onBench : bench.module? m.mark = some m
  requires : (m.requires.map ModuleImport.mark).Nodup
  packages : (m.packageImports.map PackageImport.mark).Nodup
  attached : ∀ package ∈ m.packageImports, bench.holder? package.mark = some m.mark

namespace Carries

theorem without {next : Workbench} (carries : bench.Carries m) (target : Target)
    (onBench : next.module? m.mark = some (m.without [target]))
    (holders : ∀ mark, .package mark ≠ target → next.holder? mark = bench.holder? mark) :
    next.Carries (m.without [target]) where
  onBench := onBench
  requires := carries.requires.sublist (List.filter_sublist.map _)
  packages := by
    rw [Module.packageImports_without]
    exact carries.packages.sublist (List.filter_sublist.map _)
  attached package declared := by
    obtain ⟨declared, unselected⟩ := Module.mem_packageImports_without.mp declared
    rw [holders package.mark (by simpa using unselected)]
    exact carries.attached package declared

/-- A selection of a declaration of the module succeeds, and takes out that one. -/
theorem removeOne (carries : bench.Carries m) {entry : Entry} (has : m.Has entry.target) :
    ∃ next, bench.removeOne m (.entry entry) = .ok next ∧
      next.Carries (m.without [entry.target]) ∧
      ∀ mark, mark ≠ m.mark → next.module? mark = bench.module? mark := by
  have elsewhere (f : Module → Module) (sameMark : ∀ m, (f m).mark = m.mark) (mark : Nat)
      (other : mark ≠ m.mark) : (bench.update m.mark f).module? mark = bench.module? mark := by
    rw [module?_update sameMark]
    cases found : bench.module? mark with
    | none => rfl
    | some n =>
      have marked : n.mark = mark := by simpa using List.find?_some found
      rw [Option.map_some, if_neg (marked ▸ other)]
  cases entry with
  | requirement required =>
    obtain ⟨declared, member, same⟩ := has
    refine ⟨bench.update m.mark (Module.withoutRequirement required.mark), ?_, ?_, ?_⟩
    · rw [Workbench.removeOne, removeRequirement, if_pos (by simpa using ⟨declared, member, same⟩)]
      rfl
    · refine carries.without _ ?_ fun _ _ => rfl
      rw [module?_update (Module.withoutRequirement_mark _), carries.onBench, Option.map_some,
        if_pos rfl, Module.withoutRequirement_eq carries.requires]
      rfl
    · exact elsewhere _ (Module.withoutRequirement_mark _)
  | packageImport package =>
    obtain ⟨declared, member, same⟩ := has
    have holder : (bench.holder? package.mark).bind bench.module? = some m := by
      rw [← same, carries.attached declared member]
      exact carries.onBench
    refine ⟨(bench.update m.mark (Module.withoutPackage package.mark)).detach package.mark, ?_, ?_, ?_⟩
    · rw [Workbench.removeOne, holder]
      dsimp only
      rw [removePackage, if_pos (by simpa using ⟨declared, member, same⟩)]
      rfl
    · refine carries.without _ ?_ fun mark other => ?_
      · rw [module?_detach, module?_update (Module.withoutPackage_mark _), carries.onBench,
          Option.map_some, if_pos rfl, Module.withoutPackage_eq carries.packages]
        rfl
      · exact holder?_detach fun isPackage => other (congrArg Target.package isPackage)
    · intro mark other
      rw [module?_detach]
      exact elsewhere _ (Module.withoutPackage_mark _) mark other

/-- A removal of different declarations of the module takes out all of them, and touches no other
module. -/
theorem remove (carries : bench.Carries m) {entries : List Entry}
    (has : ∀ entry ∈ entries, m.Has entry.target)
    (distinct : (entries.map Entry.target).Nodup) :
    ∃ last, (bench.remove m.mark (entries.map Selection.entry)).outcome =
        .ok (entries.length, last) ∧
      last.Carries (m.without (entries.map Entry.target)) ∧
      ∀ mark, mark ≠ m.mark → last.module? mark = bench.module? mark := by
  induction entries generalizing bench m with
  | nil => exact ⟨bench, rfl, by rwa [List.map_nil, Module.without_nil], fun _ _ => rfl⟩
  | cons entry rest ih =>
    rw [List.map_cons, List.nodup_cons] at distinct
    obtain ⟨next, removes, carriesNext, same⟩ := carries.removeOne (has entry List.mem_cons_self)
    have hasRest : ∀ other ∈ rest, (m.without [entry.target]).Has other.target := by
      refine fun other later => Module.has_without_iff.mpr ⟨has other (List.mem_cons_of_mem _ later), ?_⟩
      exact fun again => distinct.1 (List.mem_singleton.mp again ▸ List.mem_map_of_mem later)
    obtain ⟨last, outcome, carriesLast, sameRest⟩ := ih carriesNext hasRest distinct.2
    refine ⟨last, ?_, ?_, fun mark other => (sameRest mark other).trans (same mark other)⟩
    · have outcome : (next.remove m.mark (rest.map Selection.entry)).outcome =
          .ok (rest.length, last) := outcome
      rw [List.map_cons, Workbench.remove, carries.onBench]
      dsimp only
      rw [removes]
      dsimp only
      rw [Script.outcome_note_bind, Script.outcome_bind_of_ok _ outcome]
      rfl
    · rwa [Module.without_without, List.singleton_append] at carriesLast

end Carries

end Workbench

end Pruning
