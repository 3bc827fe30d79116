import Mathlib.Data.Finset.Card
import Pruning.Proofs.Removal.Selection
import Pruning.Proofs.Visibility

/-!
# The effect of a removal

On a linked bench a package import is attached to the one module that lists it. What is attached can be
selected, and is taken out where it is listed; anything else is passed over (`Linked.removeOne_cases`), and
taking it out would change nothing (`Linked.without_of_not_attached`). So a removal takes out what its
entries name and nothing else, counts the different ones among them that were attached, and leaves a
linked bench, whatever the order of the entries (`remove_effect`).
-/

namespace Pruning

/-- Whether a package import is selected. -/
def Target.isPackage : Target → Bool
  | .requirement _ => false
  | .package _ => true

namespace Module

variable {m : Module} {targets : List Target} {target : Target} {mark : Nat} {package : Mark}

instance (m : Module) (target : Target) : Decidable (m.Has target) :=
  match target with
  | .requirement mark => inferInstanceAs (Decidable (∃ required ∈ m.requires, required.mark = mark))
  | .package mark => inferInstanceAs (Decidable (∃ package ∈ m.packageImports, package.mark = mark))

/-- A module without selections that it does not declare is the module itself. -/
theorem without_of_not_has (undeclared : ∀ target ∈ targets, ¬ m.Has target) :
    m.without targets = m := by
  have requires : (m.requires.filter fun required => .requirement required.mark ∉ targets) =
      m.requires := by
    refine List.filter_eq_self.mpr fun required declared => decide_eq_true fun selected => ?_
    exact undeclared _ selected ⟨required, declared, rfl⟩
  have packages : (m.packages.map fun packages =>
      packages.filter fun package => .package package.mark ∉ targets) = m.packages := by
    cases listed : m.packages with
    | none => rfl
    | some packages =>
      have all : ∀ package ∈ packages, decide (.package package.mark ∉ targets) = true := by
        intro package declared
        refine decide_eq_true fun selected => undeclared _ selected ⟨package, ?_, rfl⟩
        rwa [packageImports, listed]
      rw [Option.map_some, List.filter_eq_self.mpr all]
  rw [without, requires, packages]

/-- What is selected of a module when selections are made in the module with a mark: anything of that
module, and package imports of any other. -/
def selected (mark : Nat) (targets : List Target) (m : Module) : List Target :=
  if m.mark = mark then targets else targets.filter Target.isPackage

theorem mem_selected :
    target ∈ m.selected mark targets ↔
      target ∈ targets ∧ (m.mark = mark ∨ target.isPackage = true) := by
  rw [selected]
  split
  case isTrue same => simp [same]
  case isFalse other => simp [other]

theorem package_mem_selected :
    .package package ∈ m.selected mark targets ↔ .package package ∈ targets := by
  simp [mem_selected, Target.isPackage]

theorem selected_append (others : List Target) :
    m.selected mark (targets ++ others) = m.selected mark targets ++ m.selected mark others := by
  by_cases same : m.mark = mark
  · simp [selected, same]
  · simp [selected, same]

/-- Selections made in another module leave the requirements as they are. -/
theorem without_selected : m.without (m.selected mark targets) =
    { m with
      requires := if m.mark = mark then
          m.requires.filter fun required => .requirement required.mark ∉ targets
        else m.requires
      packages := m.packages.map fun packages =>
        packages.filter fun package => .package package.mark ∉ targets } := by
  by_cases same : m.mark = mark
  · rw [selected, if_pos same, if_pos same, without]
  · simp [without, mem_selected, same, Target.isPackage]

end Module

namespace Workbench

variable {bench : Workbench} {m n : Module} {mark : Nat} {package : Mark} {targets : List Target}
  {target : Target}

/-! ## Linked benches -/

/-- Modules have marks of their own, no header lists a package import twice, and a package import is attached
to a module exactly when the header of this module lists it. -/
structure Linked (bench : Workbench) : Prop where
  distinct : (bench.modules.map Module.mark).Nodup
  once : ∀ n ∈ bench.modules, (n.packageImports.map PackageImport.mark).Nodup
  attached : ∀ package holder, bench.holder? package = some holder ↔
    ∃ n ∈ bench.modules, n.mark = holder ∧ n.Has (.package package)

theorem holder?_eq_none_iff :
    bench.holder? package = none ↔ ∀ holder ∈ bench.holders, holder.1 ≠ package := by
  simp [holder?]

namespace Linked

theorem eq_of_mark (linked : bench.Linked) (held : m ∈ bench.modules) (among : n ∈ bench.modules)
    (same : m.mark = n.mark) : m = n :=
  List.inj_on_of_nodup_map linked.distinct held among same

theorem module?_of_mem (linked : bench.Linked) (held : m ∈ bench.modules) :
    bench.module? m.mark = some m := by
  cases found : bench.module? m.mark with
  | none => simpa using List.find?_eq_none.mp found m held
  | some n =>
    have same : n.mark = m.mark := by simpa using List.find?_some found
    rw [linked.eq_of_mark (List.mem_of_find?_eq_some found) held same]

/-- A module lists what is attached to it. -/
theorem has_package_iff (linked : bench.Linked) (held : m ∈ bench.modules) :
    m.Has (.package package) ↔ bench.holder? package = some m.mark := by
  rw [linked.attached]
  constructor
  · exact fun has => ⟨m, held, rfl, has⟩
  · rintro ⟨n, among, same, has⟩
    exact linked.eq_of_mark among held same ▸ has

end Linked

theorem linked_empty : empty.Linked where
  distinct := List.nodup_nil
  once := List.forall_mem_nil _
  attached _ _ := iff_of_false nofun fun ⟨_, among, _⟩ => List.not_mem_nil among

theorem holder?_lay (bench : Workbench) (m : Module) (package : Mark) :
    (bench.lay m).holder? package =
      (bench.holder? package).or (if m.Has (.package package) then some m.mark else none) := by
  have own : ((m.packageImports.map fun declared => (declared.mark, m.mark)).find?
      fun holder => holder.1 = package).map Prod.snd =
        if m.Has (.package package) then some m.mark else none := by
    rw [List.find?_map, Option.map_map]
    split
    case isTrue has =>
      obtain ⟨declared, listed, same⟩ := has
      have isFound : (m.packageImports.find? fun declared => declared.mark = package).isSome = true :=
        List.find?_isSome.mpr ⟨declared, listed, by simpa using same⟩
      obtain ⟨first, found⟩ := Option.isSome_iff_exists.mp isFound
      exact (congrArg _ found).trans rfl
    case isFalse hasNot =>
      have nothing : m.packageImports.find? (fun declared => declared.mark = package) = none := by
        rw [List.find?_eq_none]
        intro declared listed same
        exact hasNot ⟨declared, listed, of_decide_eq_true same⟩
      exact congrArg _ nothing
  rw [holder?, lay, List.find?_append, Option.map_or, own, holder?]

/-- A new module, whose package imports are attached nowhere else, can be laid on a linked bench. -/
theorem Linked.lay (linked : bench.Linked) (isNew : ∀ n ∈ bench.modules, n.mark ≠ m.mark)
    (once : (m.packageImports.map PackageImport.mark).Nodup)
    (free : ∀ package ∈ m.packageImports, bench.holder? package.mark = none) :
    (bench.lay m).Linked where
  distinct := by
    rw [Workbench.lay, List.map_append, List.map_singleton, List.nodup_append]
    refine ⟨linked.distinct, List.nodup_singleton _, fun mark listed other isOwn => ?_⟩
    obtain ⟨n, among, rfl⟩ := List.mem_map.mp listed
    exact List.mem_singleton.mp isOwn ▸ isNew n among
  once n among := by
    rcases List.mem_append.mp among with among | isOwn
    · exact linked.once n among
    · exact List.mem_singleton.mp isOwn ▸ once
  attached package holder := by
    rw [holder?_lay]
    constructor
    · intro attached
      rcases Option.or_eq_some_iff.mp attached with attached | ⟨_, attached⟩
      · obtain ⟨n, among, same, has⟩ := (linked.attached package holder).mp attached
        exact ⟨n, List.mem_append_left _ among, same, has⟩
      · split at attached
        case isTrue has =>
          exact ⟨m, List.mem_append_right _ (List.mem_singleton_self m), Option.some.inj attached, has⟩
        case isFalse => cases attached
    · rintro ⟨n, among, rfl, has⟩
      rcases List.mem_append.mp among with among | isOwn
      · rw [(linked.attached package n.mark).mpr ⟨n, among, rfl, has⟩, Option.some_or]
      · cases List.mem_singleton.mp isOwn
        have detached : bench.holder? package = none := by
          obtain ⟨declared, listed, rfl⟩ := has
          exact free declared listed
        rw [detached, Option.none_or, if_pos has]

/-! ## Benches without selections -/

/-- The bench without what is selected in the module with a mark, and without the attachments of it. -/
def without (mark : Nat) (targets : List Target) (bench : Workbench) : Workbench where
  modules := bench.modules.map fun n => n.without (n.selected mark targets)
  holders := bench.holders.filter fun holder => .package holder.1 ∉ targets

theorem without_nil : bench.without mark [] = bench := by
  have modules (n : Module) : n.without (n.selected mark []) = n := by
    rw [Module.selected, List.filter_nil, ite_self, Module.without_nil]
  simp [without, modules]

theorem without_without (others : List Target) :
    (bench.without mark targets).without mark others = bench.without mark (targets ++ others) := by
  have modules (n : Module) : (n.without (n.selected mark targets)).without
      ((n.without (n.selected mark targets)).selected mark others) =
        n.without (n.selected mark (targets ++ others)) := by
    rw [Module.selected_append, ← Module.without_without]
    rfl
  have holders (holder : Mark × Nat) :
      (decide (.package holder.1 ∉ others) && decide (.package holder.1 ∉ targets)) =
        decide (.package holder.1 ∉ targets ++ others) := by
    simp [Bool.and_comm]
  simp only [without, List.map_map, Function.comp_def, modules, List.filter_filter, holders]

/-- Only what is selected matters, not its order, nor how often it is. -/
theorem without_congr {others : List Target} (same : ∀ target, target ∈ targets ↔ target ∈ others) :
    bench.without mark targets = bench.without mark others := by
  simp only [without, Module.without, Module.mem_selected, same]

theorem holder?_without : (bench.without mark targets).holder? package =
    if .package package ∈ targets then none else bench.holder? package := by
  rw [holder?, without, List.find?_filter]
  split
  case isTrue selected =>
    rw [Option.map_eq_none_iff, List.find?_eq_none]
    rintro holder - isLeft
    obtain ⟨unselected, rfl⟩ : .package holder.1 ∉ targets ∧ holder.1 = package := by
      simpa using isLeft
    exact unselected selected
  case isFalse unselected =>
    rw [holder?]
    congr 2
    funext holder
    by_cases same : holder.1 = package
    · simp [same, unselected]
    · simp [same]

theorem mem_modules_without (held : m ∈ bench.modules) :
    m.without targets ∈ (bench.without m.mark targets).modules :=
  List.mem_map.mpr ⟨m, held, by rw [Module.selected, if_pos rfl]⟩

/-- What is left lists and attaches the package imports of before that are not selected. -/
theorem Linked.without (linked : bench.Linked) (mark : Nat) (targets : List Target) :
    (bench.without mark targets).Linked where
  distinct := by
    simpa only [Workbench.without, List.map_map, Function.comp_def, Module.mark_without] using
      linked.distinct
  once n isLeft := by
    obtain ⟨old, among, rfl⟩ := List.mem_map.mp isLeft
    rw [Module.packageImports_without]
    exact (linked.once old among).sublist (List.filter_sublist.map _)
  attached package holder := by
    rw [holder?_without]
    split
    case isTrue selected =>
      refine iff_of_false nofun ?_
      rintro ⟨n, among, -, has⟩
      obtain ⟨old, -, rfl⟩ := List.mem_map.mp among
      exact (Module.has_without_iff.mp has).2 (Module.package_mem_selected.mpr selected)
    case isFalse unselected =>
      have has (n : Module) : (n.without (n.selected mark targets)).Has (.package package) ↔
          n.Has (.package package) := by
        rw [Module.has_without_iff, Module.package_mem_selected]
        exact and_iff_left unselected
      simp [linked.attached, Workbench.without, has]

/-! ## One selection -/

/-- What is selected in the module `m` can be taken out: the module requires it, or the package import is
attached to some module. -/
def Attached (bench : Workbench) (m : Module) : Target → Prop
  | .requirement mark => m.Has (.requirement mark)
  | .package mark => (bench.holder? mark).isSome = true

instance (bench : Workbench) (m : Module) : DecidablePred (bench.Attached m)
  | .requirement mark => inferInstanceAs (Decidable (m.Has (.requirement mark)))
  | .package mark => inferInstanceAs (Decidable ((bench.holder? mark).isSome = true))

theorem attached_without_iff : (bench.without mark targets).Attached (m.without targets) target ↔
    bench.Attached m target ∧ target ∉ targets := by
  cases target with
  | requirement own =>
    rw [Attached, Attached]
    exact Module.has_without_iff
  | package package =>
    rw [Attached, Attached, holder?_without]
    split
    case isTrue selected => simp [selected]
    case isFalse unselected => simp [unselected]

namespace Linked

/-- What a module loses was selected, and attached. -/
theorem attached_of_selected (linked : bench.Linked) (held : m ∈ bench.modules)
    (among : n ∈ bench.modules) (selected : target ∈ n.selected m.mark targets) (has : n.Has target) :
    target ∈ targets ∧ bench.Attached m target := by
  obtain ⟨isTarget, own⟩ := Module.mem_selected.mp selected
  refine ⟨isTarget, ?_⟩
  cases target with
  | requirement mark =>
    have same : n.mark = m.mark := own.resolve_right nofun
    cases linked.eq_of_mark among held same
    exact has
  | package package => exact Option.isSome_iff_exists.mpr ⟨_, (linked.has_package_iff among).mp has⟩

/-- Selecting what is attached nowhere changes nothing. -/
theorem without_of_not_attached (linked : bench.Linked) (held : m ∈ bench.modules)
    (detached : ¬ bench.Attached m target) : bench.without m.mark [target] = bench := by
  have modules : ∀ n ∈ bench.modules, n.without (n.selected m.mark [target]) = n := by
    refine fun n among => Module.without_of_not_has fun other selected has => detached ?_
    obtain ⟨isTarget, attached⟩ := linked.attached_of_selected held among selected has
    exact List.mem_singleton.mp isTarget ▸ attached
  have holders : ∀ holder ∈ bench.holders, decide (.package holder.1 ∉ [target]) = true := by
    refine fun holder listed => decide_eq_true fun selected => detached ?_
    cases List.mem_singleton.mp selected
    rw [Attached, Option.isSome_iff_ne_none]
    exact fun none => holder?_eq_none_iff.mp none holder listed rfl
  rw [Workbench.without, List.filter_eq_self.mpr holders, List.map_congr_left modules, List.map_id']

/-- Taking a requirement out of a module changes no other one. -/
theorem update_requirement (linked : bench.Linked) (held : m ∈ bench.modules)
    (once : (m.requires.map ModuleImport.mark).Nodup) (required : Mark) :
    bench.update m.mark (Module.withoutRequirement required) =
      bench.without m.mark [.requirement required] := by
  have modules : ∀ n ∈ bench.modules,
      (if n.mark = m.mark then n.withoutRequirement required else n) =
        n.without (n.selected m.mark [.requirement required]) := by
    intro n among
    rw [Module.selected]
    split
    case isTrue same =>
      cases linked.eq_of_mark among held same
      exact Module.withoutRequirement_eq once
    case isFalse => exact Module.without_nil.symm
  rw [update, Workbench.without, List.map_congr_left modules,
    List.filter_eq_self.mpr fun _ _ => decide_eq_true (by simp)]

/-- Taking a package import out of the header that lists it takes it off the bench. -/
theorem update_package (linked : bench.Linked) (attached : bench.holder? package = some n.mark) :
    (bench.update n.mark (Module.withoutPackage package)).detach package =
      bench.without mark [.package package] := by
  have selected (other : Module) : other.selected mark [.package package] = [.package package] :=
    ite_self _
  have modules : ∀ other ∈ bench.modules,
      (if other.mark = n.mark then other.withoutPackage package else other) =
        other.without (other.selected mark [.package package]) := by
    intro other among
    rw [selected]
    split
    case isTrue same => exact Module.withoutPackage_eq (linked.once other among)
    case isFalse differs =>
      refine (Module.without_of_not_has fun target isPackage has => differs ?_).symm
      cases List.mem_singleton.mp isPackage
      have own := (linked.has_package_iff among).mp has
      exact Option.some.inj (own.symm.trans attached)
  have holders (holder : Mark × Nat) :
      decide (holder.1 ≠ package) = decide (.package holder.1 ∉ [Target.package package]) := by
    simp
  simp only [update, detach, Workbench.without, List.map_congr_left modules, holders]

/-- What is attached is taken off the bench; any other selection is passed over. -/
theorem removeOne_cases (linked : bench.Linked) (held : m ∈ bench.modules)
    (once : (m.requires.map ModuleImport.mark).Nodup) (entry : Entry) :
    (bench.Attached m entry.target ∧
        bench.removeOne m (.entry entry) = .ok (bench.without m.mark [entry.target])) ∨
      (¬ bench.Attached m entry.target ∧
        ∃ reason, bench.removeOne m (.entry entry) = .error reason) := by
  cases entry with
  | requirement required =>
    rw [Workbench.removeOne, removeRequirement]
    split
    case isTrue declared =>
      refine Or.inl ⟨by simpa [Attached, Module.Has, Entry.target] using declared, ?_⟩
      exact congrArg _ (linked.update_requirement held once required.mark)
    case isFalse undeclared =>
      exact Or.inr ⟨by simpa [Attached, Module.Has, Entry.target] using undeclared, _, rfl⟩
  | packageImport package =>
    rw [Workbench.removeOne]
    cases attached : bench.holder? package.mark with
    | none => exact Or.inr ⟨by simp [Attached, Entry.target, attached], _, rfl⟩
    | some holder =>
      obtain ⟨n, holds, rfl, has⟩ := (linked.attached _ _).mp attached
      refine Or.inl ⟨by simp [Attached, Entry.target, attached], ?_⟩
      rw [Option.bind_some, linked.module?_of_mem holds]
      dsimp only
      rw [removePackage, if_pos (by simpa [Module.Has] using has)]
      exact congrArg _ (linked.update_package attached)

end Linked

/-! ## Whole removals -/

/-- What a removal counts of a list of selections. -/
def attachedAmong (bench : Workbench) (m : Module) (targets : List Target) : Finset Target :=
  targets.toFinset.filter (bench.Attached m)

theorem attachedAmong_cons_of_attached (attached : bench.Attached m target) :
    (bench.attachedAmong m (target :: targets)).card =
      ((bench.without m.mark [target]).attachedAmong (m.without [target]) targets).card + 1 := by
  have split : bench.attachedAmong m (target :: targets) =
      insert target ((bench.without m.mark [target]).attachedAmong (m.without [target]) targets) := by
    ext other
    by_cases same : other = target
    · simp [attachedAmong, same, attached]
    · simp [attachedAmong, attached_without_iff, same]
  rw [split, Finset.card_insert_of_notMem (by simp [attachedAmong, attached_without_iff])]

theorem attachedAmong_cons_of_not_attached (detached : ¬ bench.Attached m target) :
    bench.attachedAmong m (target :: targets) = bench.attachedAmong m targets := by
  rw [attachedAmong, List.toFinset_cons, Finset.filter_insert, if_neg detached, attachedAmong]

/-- The induction is on the entries; the bench and the module are those that the entries before have left. -/
theorem Linked.remove (linked : bench.Linked) (held : m ∈ bench.modules)
    (once : (m.requires.map ModuleImport.mark).Nodup) (entries : List Entry) :
    (bench.remove m.mark (entries.map Selection.entry)).outcome =
      .ok ((bench.attachedAmong m (entries.map Entry.target)).card,
        bench.without m.mark (entries.map Entry.target)) := by
  induction entries generalizing bench m with
  | nil =>
    rw [List.map_nil, List.map_nil, without_nil]
    rfl
  | cons entry rest ih =>
    rw [List.map_cons, List.map_cons, Workbench.remove, linked.module?_of_mem held]
    dsimp only
    have parts : (bench.without m.mark [entry.target]).without m.mark (rest.map Entry.target) =
        bench.without m.mark (entry.target :: rest.map Entry.target) :=
      without_without _
    -- what was selected before is detached by now, so that a repeated entry is not counted again
    rcases linked.removeOne_cases held once entry with
      ⟨attached, removes⟩ | ⟨detached, reason, fails⟩
    · have onceLeft : ((m.without [entry.target]).requires.map ModuleImport.mark).Nodup :=
        once.sublist (List.filter_sublist.map _)
      have later := ih (linked.without m.mark [entry.target]) (mem_modules_without held) onceLeft
      rw [Module.mark_without, parts] at later
      rw [removes]
      dsimp only
      rw [Script.outcome_note_bind, Script.outcome_bind_of_ok _ later,
        attachedAmong_cons_of_attached attached]
      rfl
    · rw [fails]
      dsimp only
      rw [Script.outcome_note_bind, ih linked held once, attachedAmong_cons_of_not_attached detached,
        ← parts, linked.without_of_not_attached held detached]

/-- A removal of any entries, in any order, takes the declarations that they name out of the module and out
of the headers that list them, and leaves everything else as it was. It counts the different ones among
them that were attached, and package imports are attached as before to what lists them. -/
theorem remove_effect (linked : bench.Linked) (held : m ∈ bench.modules)
    (once : (m.requires.map ModuleImport.mark).Nodup) (entries : List Entry) :
    ∃ last : Workbench,
      (bench.remove m.mark (entries.map Selection.entry)).outcome =
        .ok (((entries.map Entry.target).toFinset.filter (bench.Attached m)).card, last) ∧
      last.modules = (bench.modules.map fun n =>
        { n with
          requires := if n.mark = m.mark then
              n.requires.filter fun required =>
                .requirement required.mark ∉ entries.map Entry.target
            else n.requires
          packages := n.packages.map fun packages =>
            packages.filter fun package => .package package.mark ∉ entries.map Entry.target }) ∧
      last.Linked ∧
      ∀ order : List Entry, order.Perm entries →
        (bench.remove m.mark (order.map Selection.entry)).outcome =
          (bench.remove m.mark (entries.map Selection.entry)).outcome := by
  refine ⟨bench.without m.mark (entries.map Entry.target), linked.remove held once entries,
    List.map_congr_left fun _ _ => Module.without_selected, linked.without m.mark _,
    fun order same => ?_⟩
  have sameTargets : (order.map Entry.target).Perm (entries.map Entry.target) := same.map _
  rw [linked.remove held once order, linked.remove held once entries, attachedAmong, attachedAmong,
    List.toFinset_eq_of_perm _ _ sameTargets, without_congr fun _ => sameTargets.mem_iff]

/-- A module that requires the library twice, and imports two of its packages. -/
def doubled : Module :=
  { Module.plain 0 "client" "1.0" [.plain ⟨0, 0⟩ "library" false, .plain ⟨0, 1⟩ "library" false] [] with
    packages := some [⟨⟨0, 0⟩, "library.api", [], []⟩, ⟨⟨0, 1⟩, "library.util", [], []⟩] }

/-- A module that imports one package of the library. -/
def neighbour : Module :=
  { Module.plain 1 "neighbour" "1.0" [] [] with packages := some [⟨⟨1, 0⟩, "library.api", [], []⟩] }

/-- The second requirement of the library, twice, a requirement that `doubled` does not have, the import of
the neighbour, and one that nothing lists. -/
def mixed : List Entry :=
  [.requirement (.plain ⟨0, 1⟩ "library" false), .packageImport ⟨⟨2, 0⟩, "library.api", [], []⟩,
    .requirement (.plain ⟨1, 0⟩ "library" false), .packageImport ⟨⟨1, 0⟩, "library.api", [], []⟩,
    .requirement (.plain ⟨0, 1⟩ "library" false)]

/-- Two of the five are removed: the first requirement of the library stays, and so do both imports of the
module. -/
theorem remove_effect_mixed :
    ∃ bench last : Workbench,
      bench.Linked ∧ doubled ∈ bench.modules ∧ (doubled.requires.map ModuleImport.mark).Nodup ∧
      (bench.remove doubled.mark (mixed.map Selection.entry)).outcome = .ok (2, last) ∧
      last.modules = [{ doubled with requires := [.plain ⟨0, 0⟩ "library" false] },
        { neighbour with packages := some [] }] := by
  have linked : ((empty.lay doubled).lay neighbour).Linked :=
    (linked_empty.lay (by decide) (by decide) (by decide)).lay (by decide) (by decide) (by decide)
  have held : doubled ∈ ((empty.lay doubled).lay neighbour).modules := by decide
  have once : (doubled.requires.map ModuleImport.mark).Nodup := by decide
  obtain ⟨last, removes, left, _⟩ := remove_effect linked held once mixed
  exact ⟨_, last, linked, held, once, removes, left⟩

end Workbench

end Pruning
