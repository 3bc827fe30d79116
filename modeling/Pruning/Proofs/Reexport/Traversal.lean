import Mathlib.Data.List.Nodup
import Mathlib.Logic.Relation
import Pruning.Minimization

/-!
# Depth-first traversals of the re-export graph

Both the closure of an id and the contraction of used modules visit ids from a stack, and both put the
re-exports of every id they visit on the stack, in different orders. `Traversal` describes such a visit
for any order. An id is visited iff it is reached from the stack (`Traversal.mem_iff`), and no id is
visited twice (`Traversal.nodup`). The two loops of the library are traversals (`visit_traversal`,
`expandFrom_traversal`), so `mem_closure_iff` and `mem_expansions_iff` need no induction of their own.
-/

namespace Pruning.ReexportGraph

open Relation

/-- `graph.Edge a b`: the resolved module `a` re-exports `b`. -/
def Edge (graph : ReexportGraph) (a b : String) : Prop :=
  b ∈ graph.successors a

/-- `graph.Traversal visited stack order`: with the ids of `visited` behind it, a visit of `stack` meets
the new ids of `order`. -/
inductive Traversal (graph : ReexportGraph) :
    List String → List String → List String → Prop
  | done {visited : List String} : Traversal graph visited [] []
  | skip {visited rest order : List String} {id : String} :
    id ∈ visited → Traversal graph visited rest order →
    Traversal graph visited (id :: rest) order
  | expand {visited next rest order : List String} {id : String} :
    id ∉ visited → (∀ target, target ∈ next ↔ graph.Edge id target) →
    Traversal graph (id :: visited) (next ++ rest) order →
    Traversal graph visited (id :: rest) (id :: order)

namespace Traversal

variable {graph : ReexportGraph} {visited stack order : List String} {id target : String}

theorem not_mem_visited (walk : Traversal graph visited stack order) (visits : id ∈ order) :
    id ∉ visited := by
  induction walk with
  | done => cases visits
  | skip _ _ ih => exact ih visits
  | expand isNew _ _ ih =>
    rcases List.mem_cons.mp visits with rfl | later
    · exact isNew
    · exact fun before => ih later (List.mem_cons_of_mem _ before)

theorem nodup (walk : Traversal graph visited stack order) : order.Nodup := by
  induction walk with
  | done => exact List.nodup_nil
  | skip _ _ ih => exact ih
  | expand _ _ rest ih =>
    exact List.nodup_cons.mpr ⟨fun again => rest.not_mem_visited again List.mem_cons_self, ih⟩

/-- Every visited id is reached from the stack. -/
theorem reached (walk : Traversal graph visited stack order) (visits : target ∈ order) :
    ∃ start ∈ stack, ReflTransGen graph.Edge start target := by
  induction walk with
  | done => cases visits
  | skip _ _ ih =>
    obtain ⟨start, member, path⟩ := ih visits
    exact ⟨start, List.mem_cons_of_mem _ member, path⟩
  | @expand visited next rest order id _ edges _ ih =>
    rcases List.mem_cons.mp visits with rfl | later
    · exact ⟨target, List.mem_cons_self, .refl⟩
    · obtain ⟨start, member, path⟩ := ih later
      rcases List.mem_append.mp member with isNext | isRest
      · exact ⟨id, List.mem_cons_self, .head ((edges start).mp isNext) path⟩
      · exact ⟨start, List.mem_cons_of_mem _ isRest, path⟩

/-- Every id of the stack is visited, unless it was before. -/
theorem covers (walk : Traversal graph visited stack order) (member : target ∈ stack) :
    target ∈ visited ∨ target ∈ order := by
  induction walk with
  | done => cases member
  | skip before _ ih =>
    rcases List.mem_cons.mp member with rfl | isRest
    · exact Or.inl before
    · exact ih isRest
  | expand _ _ _ ih =>
    rcases List.mem_cons.mp member with rfl | isRest
    · exact Or.inr List.mem_cons_self
    · rcases ih (List.mem_append_right _ isRest) with before | later
      · rcases List.mem_cons.mp before with rfl | before
        · exact Or.inr List.mem_cons_self
        · exact Or.inl before
      · exact Or.inr (List.mem_cons_of_mem _ later)

/-- The re-exports of a visited id are visited, unless they were before. -/
theorem closed (walk : Traversal graph visited stack order) (visits : id ∈ order)
    (edge : graph.Edge id target) : target ∈ visited ∨ target ∈ order := by
  induction walk with
  | done => cases visits
  | skip _ _ ih => exact ih visits
  | @expand visited next rest order first _ edges walk ih =>
    have settled : target ∈ first :: visited ∨ target ∈ order := by
      rcases List.mem_cons.mp visits with rfl | later
      · exact walk.covers (List.mem_append_left _ ((edges target).mpr edge))
      · exact ih later
    rcases settled with before | later
    · rcases List.mem_cons.mp before with rfl | before
      · exact Or.inr List.mem_cons_self
      · exact Or.inl before
    · exact Or.inr (List.mem_cons_of_mem _ later)

/-- A traversal that starts with nothing behind it visits what its stack reaches. -/
theorem mem_iff (walk : Traversal graph [] stack order) :
    target ∈ order ↔ ∃ start ∈ stack, ReflTransGen graph.Edge start target := by
  constructor
  · exact walk.reached
  · rintro ⟨start, member, path⟩
    induction path with
    | refl => exact (walk.covers member).resolve_left (by simp)
    | tail _ edge ih => exact (walk.closed ih edge).resolve_left (by simp)

end Traversal

variable (graph : ReexportGraph)

/-! ## The closure of an id -/

theorem visit_traversal (visited stack : List String) :
    ∃ order, graph.Traversal visited stack order ∧
      graph.visit visited stack = order.reverse ++ visited := by
  fun_induction visit graph visited stack with
  | case1 visited => exact ⟨[], .done, rfl⟩
  | case2 visited id rest before ih =>
    obtain ⟨order, walk, visits⟩ := ih
    exact ⟨order, .skip before walk, visits⟩
  | case3 visited id rest isNew ih =>
    obtain ⟨order, walk, visits⟩ := ih
    exact ⟨id :: order, .expand isNew (fun _ => Iff.rfl) walk, by rw [visits]; simp⟩

theorem closure_traversal (id : String) : graph.Traversal [] [id] (graph.closure id) := by
  obtain ⟨order, walk, visits⟩ := graph.visit_traversal [] [id]
  rw [closure, visits]
  simpa using walk

/-- The closure of an id holds the ids that it reaches by zero or more edges. -/
theorem mem_closure_iff {id target : String} :
    target ∈ graph.closure id ↔ ReflTransGen graph.Edge id target := by
  rw [(graph.closure_traversal id).mem_iff]
  simp

/-! ## The steps of a contraction -/

theorem expandFrom_traversal (visited : List String) (used : UsedModules) (stack : List String) :
    graph.Traversal visited stack
      ((graph.expandFrom visited used stack).map Expansion.id) := by
  fun_induction expandFrom graph visited used stack with
  | case1 visited used => exact .done
  | case2 visited used id rest before ih => exact .skip before ih
  | case3 visited used id rest isNew dropped left dropping ih =>
    exact .expand isNew (fun _ => List.mem_reverse) ih

/-- A contraction expands the ids that are reached from used modules by zero or more edges. -/
theorem mem_expansions_iff {used : UsedModules} {id : String} :
    id ∈ (graph.expansions used).map Expansion.id ↔
      ∃ start ∈ Fields.keys used, ReflTransGen graph.Edge start id := by
  rw [expansions, (graph.expandFrom_traversal [] used _).mem_iff]
  simp

end Pruning.ReexportGraph
