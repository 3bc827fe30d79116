import Mathlib.Data.Fintype.Card
import Mathlib.Data.Fintype.EquivFin
import Mathlib.Data.Fintype.Sets
import Mathlib.Data.List.Nodup
import Pruning.Proofs.Fields
import Pruning.Proofs.Reexport.Traversal

/-!
# What a contraction drops

A contraction drops the used modules that some used module reaches by one or more re-export edges
(`mem_contracted_iff`), and none of them twice (`nodup_contracted`). Neither the order of the map nor
that of the edges matters: `drop` takes out whatever is there under the ids it is given.
-/

namespace Pruning

open Relation

/-- Every entry stands under the id of the module it requires. -/
def UsedModules.Keyed (used : UsedModules) : Prop :=
  ∀ ⦃id : String⦄ ⦃required : ModuleImport⦄, Fields.get? id used = some required → required.id = id

namespace ReexportGraph

variable {graph : ReexportGraph} {used : UsedModules} {ids : List String} {id : String}
  {required : ModuleImport}

/-! ## One step -/

theorem get?_drop : Fields.get? id (drop used ids).2 =
    if id ∈ ids then none else Fields.get? id used := by
  induction ids generalizing used with
  | nil => simp [drop]
  | cons first rest ih =>
    rw [drop]
    split
    case h_1 missing =>
      rw [ih]
      by_cases same : id = first
      · simp [same, missing]
      · simp [same]
    case h_2 found =>
      simp only [ih, Fields.get?_erase, List.mem_cons]
      by_cases same : id = first
      · simp [same]
      · simp [same]

/-- A step drops what it finds under the ids it is given. -/
theorem mem_drop : required ∈ (drop used ids).1 ↔
    ∃ id ∈ ids, Fields.get? id used = some required := by
  induction ids generalizing used with
  | nil => simp [drop]
  | cons first rest ih =>
    rw [drop]
    split
    case h_1 missing => simp [ih, missing]
    case h_2 found =>
      simp only [List.mem_cons, ih, Fields.get?_erase]
      constructor
      · rintro (rfl | ⟨id, member, left⟩)
        · exact ⟨first, Or.inl rfl, found⟩
        · split at left
          case isTrue => cases left
          case isFalse => exact ⟨id, Or.inr member, left⟩
      · rintro ⟨id, rfl | member, left⟩
        · exact Or.inl (Option.some.inj (left.symm.trans found))
        · by_cases same : id = first
          · subst same
            exact Or.inl (Option.some.inj (left.symm.trans found))
          · exact Or.inr ⟨id, member, by rw [if_neg same, left]⟩

theorem keyed_erase (keyed : used.Keyed) (id : String) :
    UsedModules.Keyed (Fields.erase id used) := by
  intro other required found
  rw [Fields.get?_erase] at found
  split at found
  case isTrue => cases found
  case isFalse => exact keyed found

theorem keyed_drop (keyed : used.Keyed) (ids : List String) :
    UsedModules.Keyed (drop used ids).2 := by
  intro other required found
  rw [get?_drop] at found
  split at found
  case isTrue => cases found
  case isFalse => exact keyed found

theorem nodup_drop (keyed : used.Keyed) (ids : List String) :
    ((drop used ids).1.map ModuleImport.id).Nodup := by
  induction ids generalizing used with
  | nil => simp [drop]
  | cons first rest ih =>
    rw [drop]
    split
    case h_1 => exact ih keyed
    case h_2 required found =>
      refine List.nodup_cons.mpr ⟨?_, ih (keyed_erase keyed first)⟩
      intro again
      obtain ⟨other, dropped, same⟩ := List.mem_map.mp again
      obtain ⟨id, _, left⟩ := mem_drop.mp dropped
      have isFirst : id = first :=
        (keyed_erase keyed first left).symm.trans (same.trans (keyed found))
      rw [Fields.get?_erase, if_pos isFirst] at left
      cases left

/-! ## All steps -/

/-- The imports that a contraction drops, in the order it finds them. -/
def contracted (graph : ReexportGraph) (used : UsedModules) : List ModuleImport :=
  (graph.expansions used).flatMap Expansion.dropped

/-- The used modules that a contraction leaves. -/
def kept (graph : ReexportGraph) (used : UsedModules) : UsedModules :=
  leftBy used (graph.expansions used)

theorem mem_dropped_expandFrom {visited stack : List String} :
    required ∈ (graph.expandFrom visited used stack).flatMap Expansion.dropped ↔
      ∃ id, Fields.get? id used = some required ∧
        ∃ source ∈ (graph.expandFrom visited used stack).map Expansion.id,
          graph.Edge source id := by
  fun_induction expandFrom graph visited used stack with
  | case1 => simp
  | case2 visited used first rest before ih => exact ih
  | case3 visited used first rest isNew dropped left dropping ih =>
    have isDropped : dropped = (drop used (graph.successors first)).1 := by rw [dropping]
    have isLeft : left = (drop used (graph.successors first)).2 := by rw [dropping]
    subst isDropped isLeft
    simp only [List.flatMap_cons, List.mem_append, ih, List.map_cons, List.mem_cons, mem_drop,
      get?_drop]
    constructor
    · rintro (⟨id, edge, found⟩ | ⟨id, found, source, visits, edge⟩)
      · exact ⟨id, found, first, Or.inl rfl, edge⟩
      · split at found
        case isTrue => cases found
        case isFalse => exact ⟨id, found, source, Or.inr visits, edge⟩
    · rintro ⟨id, found, source, rfl | visits, edge⟩
      · exact Or.inl ⟨id, edge, found⟩
      · by_cases here : id ∈ graph.successors first
        · exact Or.inl ⟨id, here, found⟩
        · exact Or.inr ⟨id, by rw [if_neg here, found], source, visits, edge⟩

/-- The contracted imports are those whose ids some used module reaches by one or more edges. -/
theorem mem_contracted_iff : required ∈ graph.contracted used ↔
    ∃ id, Fields.get? id used = some required ∧
      ∃ start ∈ Fields.keys used, TransGen graph.Edge start id := by
  have bySteps : required ∈ graph.contracted used ↔
      ∃ id, Fields.get? id used = some required ∧
        ∃ source ∈ (graph.expansions used).map Expansion.id, graph.Edge source id :=
    mem_dropped_expandFrom
  simp only [bySteps, mem_expansions_iff]
  constructor
  · rintro ⟨id, found, source, ⟨start, member, path⟩, edge⟩
    exact ⟨id, found, start, member, .tail' path edge⟩
  · rintro ⟨id, found, start, member, path⟩
    obtain ⟨source, path, edge⟩ := TransGen.tail'_iff.mp path
    exact ⟨id, found, source, ⟨start, member, path⟩, edge⟩

theorem nodup_dropped_expandFrom (keyed : used.Keyed) (visited stack : List String) :
    (((graph.expandFrom visited used stack).flatMap Expansion.dropped).map
      ModuleImport.id).Nodup := by
  fun_induction expandFrom graph visited used stack with
  | case1 => simp
  | case2 visited used first rest before ih => exact ih keyed
  | case3 visited used first rest isNew dropped left dropping ih =>
    have isDropped : dropped = (drop used (graph.successors first)).1 := by rw [dropping]
    have isLeft : left = (drop used (graph.successors first)).2 := by rw [dropping]
    subst isDropped isLeft
    rw [List.flatMap_cons, List.map_append]
    refine (nodup_drop keyed _).append (ih (keyed_drop keyed _)) ?_
    intro id here later
    obtain ⟨required, member, rfl⟩ := List.mem_map.mp here
    obtain ⟨other, again, same⟩ := List.mem_map.mp later
    obtain ⟨source, edge, found⟩ := mem_drop.mp member
    obtain ⟨id, found', _⟩ := mem_dropped_expandFrom.mp again
    have sameId : id = source :=
      (keyed_drop keyed _ found').symm.trans (same.trans (keyed found))
    rw [get?_drop, if_pos (sameId ▸ edge)] at found'
    cases found'

/-- No two contracted imports require the same module. -/
theorem nodup_contracted (keyed : used.Keyed) :
    ((graph.contracted used).map ModuleImport.id).Nodup :=
  nodup_dropped_expandFrom keyed [] _

/-! ## Graphs without cycles -/

/-- No module re-exports itself, however indirectly. -/
def Acyclic (graph : ReexportGraph) : Prop :=
  ∀ id, ¬ TransGen graph.Edge id id

/-- Among finitely many ids of a graph without cycles, each is reached from one that no other reaches:
such a start is never contracted. -/
theorem exists_start (acyclic : graph.Acyclic) {ids : List String} (member : id ∈ ids) :
    ∃ start ∈ ids, ReflTransGen graph.Edge start id ∧
      ∀ other ∈ ids, ¬ TransGen graph.Edge other start := by
  let Above (a b : {id // id ∈ ids}) : Prop := TransGen graph.Edge a.1 b.1
  have : IsTrans {id // id ∈ ids} Above := ⟨fun _ _ _ => TransGen.trans⟩
  have : Std.Irrefl Above := ⟨fun a => acyclic a.1⟩
  have wellFounded : WellFounded Above := Finite.wellFounded_of_trans_of_irrefl Above
  suffices upwards : ∀ a : {id // id ∈ ids}, ∃ start ∈ ids, ReflTransGen graph.Edge start a.1 ∧
      ∀ other ∈ ids, ¬ TransGen graph.Edge other start from upwards ⟨id, member⟩
  intro a
  induction a using wellFounded.induction with
  | _ a ih =>
    by_cases isStart : ∀ other ∈ ids, ¬ TransGen graph.Edge other a.1
    · exact ⟨a.1, a.2, .refl, isStart⟩
    · push Not at isStart
      obtain ⟨other, isOther, path⟩ := isStart
      obtain ⟨start, isId, upper, highest⟩ := ih ⟨other, isOther⟩ path
      exact ⟨start, isId, upper.trans path.to_reflTransGen, highest⟩

end ReexportGraph

end Pruning
