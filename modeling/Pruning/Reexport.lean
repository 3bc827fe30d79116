import Pruning.Registry

/-!
The re-export graph. Its nodes are module ids; an edge from `a` to `b` says that the resolved module
`a` requires `b` and makes the exports of `b` visible through itself. Edges keep the order of the
declarations.
-/

namespace Pruning

/-- The ids that each module re-exports, for the modules that re-export any. -/
structure ReexportGraph where
  edges : Fields (List String)
  deriving DecidableEq, Repr

namespace ReexportGraph

/-- The ids that a module makes visible. A module does not re-export itself. -/
def reexports (m : Module) (id : String) : List String :=
  (m.requires.filter fun required =>
    required.reexported && !required.id.isEmpty && required.id != id).map ModuleImport.id

/-- The graph of the resolved modules of a registry. -/
def ofRegistry (registry : Registry) : ReexportGraph :=
  ⟨registry.ids.filterMap fun id =>
    match registry.resolve id with
    | none => none
    | some m => if (reexports m id).isEmpty then none else some (id, reexports m id)⟩

/-- The ids that a module re-exports directly. -/
def successors (graph : ReexportGraph) (id : String) : List String :=
  (Fields.get? id graph.edges).getD []

/-- How many modules with edges are not among the visited ones. -/
def unvisited (graph : ReexportGraph) (visited : List String) : Nat :=
  graph.edges.countP fun edge => !visited.contains edge.1

theorem unvisited_cons_le (graph : ReexportGraph) (visited : List String) (id : String) :
    graph.unvisited (id :: visited) ≤ graph.unvisited visited :=
  List.countP_mono_left fun edge _ => by simp

theorem exists_edge_of_successors {edges : Fields (List String)} {id : String}
    (hasEdges : (Fields.get? id edges).getD [] ≠ []) : ∃ edge ∈ edges, edge.1 = id := by
  induction edges with
  | nil => simp [Fields.get?] at hasEdges
  | cons edge rest ih =>
    by_cases same : edge.1 = id
    · exact ⟨edge, by simp, same⟩
    · obtain ⟨found, member, named⟩ := ih (by simpa [Fields.get?, same] using hasEdges)
      exact ⟨found, by simp [member], named⟩

/-- A visit to a new module with successors leaves fewer modules to visit. -/
theorem unvisited_cons_lt (graph : ReexportGraph) (visited : List String) (id : String)
    (isNew : id ∉ visited) (hasEdges : graph.successors id ≠ []) :
    graph.unvisited (id :: visited) < graph.unvisited visited := by
  obtain ⟨edge, member, named⟩ := exists_edge_of_successors hasEdges
  obtain ⟨before, after, split⟩ := List.append_of_mem member
  have before_le := unvisited_cons_le ⟨before⟩ visited id
  have after_le := unvisited_cons_le ⟨after⟩ visited id
  simp only [unvisited] at before_le after_le
  have counted : (!visited.contains edge.1) = true := by simpa [named] using isNew
  have dropped : (!(id :: visited).contains edge.1) = false := by simp [named]
  simp only [unvisited, split, List.countP_append, List.countP_cons, counted, dropped]
  simp only [↓reduceIte, Bool.false_eq_true]
  omega

/-- Visits the ids of a stack, the top first, and after each the ids it re-exports. `visited` holds the
ids visited so far, the latest first. -/
def visit (graph : ReexportGraph) (visited : List String) : List String → List String
  | [] => visited
  | id :: rest =>
    if id ∈ visited then visit graph visited rest
    else visit graph (id :: visited) (graph.successors id ++ rest)
termination_by stack => (graph.unvisited visited, stack.length)
decreasing_by
  · exact Prod.Lex.right _ (by simp)
  · rename_i isNew
    by_cases hasEdges : graph.successors id = []
    · rw [hasEdges]
      rcases Nat.lt_or_eq_of_le (unvisited_cons_le graph visited id) with less | same
      · exact Prod.Lex.left _ _ less
      · rw [same]
        exact Prod.Lex.right _ (by simp)
    · exact Prod.Lex.left _ _ (unvisited_cons_lt graph visited id isNew hasEdges)

/-- A module and every module visible through it, in the order of a depth-first visit. -/
def closure (graph : ReexportGraph) (id : String) : List String :=
  (graph.visit [] [id]).reverse

end ReexportGraph

end Pruning
