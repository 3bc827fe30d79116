import Pruning.Proofs.Fields
import Pruning.Proofs.Reexport.Traversal

/-!
# What a walk through the graph looks at

The edges out of an id are the re-exports of its resolved module (`successors_ofRegistry`). A closure and
the steps of a contraction ask for the edges out of ids that they reach, and of no others: graphs that
agree there give the same answers in the same order (`closure_congr`, `expansions_congr`), whatever else
is in them and in whatever order their edges are listed.
-/

namespace Pruning.ReexportGraph

open Relation

theorem get?_filterMap_keyed {α : Type} {ids : List String} {value : String → Option α} {id : String} :
    Fields.get? id (ids.filterMap fun key => (value key).map fun found => (key, found)) =
      if id ∈ ids then value id else none := by
  induction ids with
  | nil => rfl
  | cons first rest ih =>
    cases found : value first with
    | none =>
      rw [List.filterMap_cons_none (by rw [found]; rfl), ih]
      by_cases same : id = first
      · simp [same, found]
      · simp [same]
    | some _ =>
      rw [List.filterMap_cons_some (by rw [found]; rfl), Fields.get?_cons, ih]
      by_cases same : id = first
      · simp [same, found]
      · simp [same, Ne.symm same]

/-- The re-exports of the resolved module of an id, if there are any. -/
def listed (registry : Registry) (id : String) : Option (List String) :=
  (registry.resolve id).bind fun m => if (reexports m id).isEmpty then none else some (reexports m id)

theorem ofRegistry_eq (registry : Registry) : ofRegistry registry =
    ⟨registry.ids.filterMap fun id => (listed registry id).map fun targets => (id, targets)⟩ := by
  rw [ofRegistry, mk.injEq]
  congr 1
  funext id
  rw [listed]
  cases registry.resolve id with
  | none => rfl
  | some m => by_cases nothing : reexports m id = [] <;> simp [nothing]

/-- The edges out of an id are the re-exports of its resolved module. -/
theorem successors_ofRegistry (registry : Registry) (id : String) :
    (ofRegistry registry).successors id =
      ((registry.resolve id).map fun m => reexports m id).getD [] := by
  have listed_getD : (listed registry id).getD [] =
      ((registry.resolve id).map fun m => reexports m id).getD [] := by
    rw [listed]
    cases registry.resolve id with
    | none => rfl
    | some m => by_cases nothing : reexports m id = [] <;> simp [nothing]
  rw [successors, ofRegistry_eq, get?_filterMap_keyed]
  by_cases registered : id ∈ registry.ids
  · rw [if_pos registered, listed_getD]
  · have unknown : registry.resolve id = none := by
      have missing : Fields.get? id registry.entries = none := Fields.get?_eq_none_iff.mpr registered
      rw [Registry.resolve, Registry.candidates, missing]
      rfl
    rw [if_neg registered, unknown]
    rfl

variable {graph graph' : ReexportGraph} {visited stack : List String} {used : UsedModules}
  {id : String}

/-- The graphs have the same edges out of every id that is reached from the stack. -/
def AgreeFrom (graph graph' : ReexportGraph) (stack : List String) : Prop :=
  ∀ start ∈ stack, ∀ id, ReflTransGen graph.Edge start id → graph.successors id = graph'.successors id

theorem AgreeFrom.tail {rest : List String} (agree : graph.AgreeFrom graph' (id :: rest)) :
    graph.AgreeFrom graph' rest :=
  fun start member => agree start (List.mem_cons_of_mem _ member)

theorem AgreeFrom.successors_eq {rest : List String} (agree : graph.AgreeFrom graph' (id :: rest)) :
    graph.successors id = graph'.successors id :=
  agree id List.mem_cons_self id .refl

/-- Graphs that agree from an id agree from its re-exports, in whatever order they are visited. -/
theorem AgreeFrom.expand {next rest : List String} (agree : graph.AgreeFrom graph' (id :: rest))
    (edges : ∀ target ∈ next, graph.Edge id target) : graph.AgreeFrom graph' (next ++ rest) := by
  intro start member reached path
  rcases List.mem_append.mp member with isNext | isRest
  · exact agree id List.mem_cons_self reached (.head (edges start isNext) path)
  · exact agree start (List.mem_cons_of_mem _ isRest) reached path

theorem visit_congr (agree : graph.AgreeFrom graph' stack) :
    graph.visit visited stack = graph'.visit visited stack := by
  fun_induction visit graph visited stack with
  | case1 visited => rw [visit]
  | case2 visited id rest before ih => rw [ih agree.tail, visit, if_pos before]
  | case3 visited id rest isNew ih =>
    rw [ih (agree.expand fun _ edge => edge), visit, if_neg isNew, agree.successors_eq]

theorem closure_congr (agree : graph.AgreeFrom graph' [id]) : graph.closure id = graph'.closure id := by
  rw [closure, closure, visit_congr agree]

theorem expandFrom_congr (agree : graph.AgreeFrom graph' stack) :
    graph.expandFrom visited used stack = graph'.expandFrom visited used stack := by
  fun_induction expandFrom graph visited used stack with
  | case1 visited used => rw [expandFrom]
  | case2 visited used id rest before ih => rw [ih agree.tail, expandFrom, if_pos before]
  | case3 visited used id rest isNew dropped left dropping ih =>
    rw [ih (agree.expand fun _ => List.mem_reverse.mp), expandFrom, if_neg isNew,
      ← agree.successors_eq, dropping]

/-- Contractions with graphs that agree from all used modules take the same steps. -/
theorem expansions_congr (agree : graph.AgreeFrom graph' (Fields.keys used)) :
    graph.expansions used = graph'.expansions used :=
  expandFrom_congr fun start member => agree start (List.mem_reverse.mp member)

end Pruning.ReexportGraph
