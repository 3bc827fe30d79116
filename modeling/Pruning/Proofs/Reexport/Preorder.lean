import Pruning.Proofs.Reexport.Traversal

/-!
# The closure of an id is a preorder

The closure of an id is found by a loop over a stack of ids (`Turn`). The same ids, in the same order, are
met by a recursive visit that notes an id and then visits its re-exports one after the other
(`preorder_eq`). The two agree because the stack holds the visits that the recursion has still to make:
whatever is left on it is visited with the ids noted so far, from the top to the bottom
(`reverse_visit`). So a recursive call that returns is a stack that is down to what lay below it.
-/

namespace Pruning.ReexportGraph

open Relation

variable (graph : ReexportGraph)

/-! ## The recursive visit -/

/-- More visited ids leave fewer modules to visit. -/
theorem unvisited_le_of_subset {visited later : List String} (grows : visited ⊆ later) :
    graph.unvisited later ≤ graph.unvisited visited := by
  unfold unvisited
  apply List.countP_mono_left
  intro edge _ missed
  simp only [Bool.not_eq_true', List.contains_eq_mem, decide_eq_false_iff_not] at missed ⊢
  intro before
  exact missed (grows before)

/-- A visit to a new id leaves fewer modules to visit, or has no re-exports to go on with. -/
theorem unvisited_append (seen : List String) (id : String) (isNew : id ∉ seen) :
    graph.unvisited (seen ++ [id]) < graph.unvisited seen ∨
      graph.unvisited (seen ++ [id]) ≤ graph.unvisited seen ∧ graph.successors id = [] := by
  have turned : id :: seen ⊆ seen ++ [id] := by
    intro other held
    rcases List.mem_cons.mp held with rfl | before
    · exact List.mem_append_right seen List.mem_cons_self
    · exact List.mem_append_left [id] before
  have fewer := graph.unvisited_le_of_subset turned
  by_cases leaf : graph.successors id = []
  · have notMore := graph.unvisited_cons_le seen id
    exact Or.inr ⟨by omega, leaf⟩
  · have less := graph.unvisited_cons_lt seen id isNew leaf
    exact Or.inl (by omega)

/-- Visits ids one after the other: an id that is not among `seen` is noted, and its re-exports are
visited before the next id. What was noted stays noted. -/
def preorderAll (seen : List String) : List String → { order : List String // seen ⊆ order }
  | [] => ⟨seen, List.Subset.refl seen⟩
  | id :: rest =>
    if id ∈ seen then preorderAll seen rest
    else
      let below := preorderAll (seen ++ [id]) (graph.successors id)
      have grown : seen ⊆ below.1 := List.Subset.trans (List.subset_append_left seen [id]) below.2
      let order := preorderAll below.1 rest
      ⟨order.1, List.Subset.trans grown order.2⟩
termination_by ids => (graph.unvisited seen, ids.length)
decreasing_by
  · exact Prod.Lex.right _ (by simp)
  · rename_i isNew
    rcases graph.unvisited_append seen id isNew with less | ⟨notMore, leaf⟩
    · exact Prod.Lex.left _ _ less
    · exact Prod.Lex.right' _ notMore (by simp [leaf])
  · exact Prod.Lex.right' _ (graph.unvisited_le_of_subset grown) (by simp)

@[simp]
theorem preorderAll_nil (seen : List String) : (graph.preorderAll seen []).1 = seen := by
  rw [preorderAll]

theorem preorderAll_cons (seen : List String) (id : String) (rest : List String) :
    (graph.preorderAll seen (id :: rest)).1 =
      (graph.preorderAll (if id ∈ seen then seen
        else (graph.preorderAll (seen ++ [id]) (graph.successors id)).1) rest).1 := by
  rw [preorderAll]
  by_cases before : id ∈ seen
  · rw [if_pos before, if_pos before]
  · rw [if_neg before, if_neg before]

/-- The ids noted after a visit to an id, in the order in which they were met. -/
def preorder (seen : List String) (id : String) : List String :=
  (graph.preorderAll seen [id]).1

theorem preorderAll_eq_foldl (seen ids : List String) :
    (graph.preorderAll seen ids).1 = ids.foldl graph.preorder seen := by
  induction ids generalizing seen with
  | nil => rw [preorderAll_nil, List.foldl_nil]
  | cons id rest ih =>
    rw [List.foldl_cons, ← ih, preorder, preorderAll_cons, preorderAll_cons, preorderAll_nil]

/-- The recursion: an id that was met before adds nothing; a new one is noted, and then its re-exports
are visited in their order, each with all that was noted before it. -/
theorem preorder_eq (seen : List String) (id : String) :
    graph.preorder seen id =
      if id ∈ seen then seen else (graph.successors id).foldl graph.preorder (seen ++ [id]) := by
  rw [preorder, preorderAll_cons, preorderAll_nil, preorderAll_eq_foldl]

/-! ## The loop over a stack -/

/-- How far a visit has come: the ids met so far, in their order, and the stack of ids still to be
looked at, the top first. -/
structure Tour where
  order : List String
  stack : List String

/-- One turn of the loop: the top of the stack is dropped when it was met before; otherwise it is noted,
and its re-exports take its place on the stack. -/
inductive Turn : Tour → Tour → Prop
  | skip {order rest : List String} {id : String} (before : id ∈ order) :
      Turn ⟨order, id :: rest⟩ ⟨order, rest⟩
  | enter {order rest : List String} {id : String} (isNew : id ∉ order) :
      Turn ⟨order, id :: rest⟩ ⟨order ++ [id], graph.successors id ++ rest⟩

/-- The loop comes to an empty stack, with the visited ids as its order. -/
theorem turns_visit (visited stack : List String) :
    ReflTransGen graph.Turn ⟨visited.reverse, stack⟩ ⟨(graph.visit visited stack).reverse, []⟩ := by
  fun_induction visit graph visited stack with
  | case1 visited => exact .refl
  | case2 visited id rest before ih => exact .head (.skip (List.mem_reverse.mpr before)) ih
  | case3 visited id rest isNew ih =>
    rw [List.reverse_cons] at ih
    have unmet : id ∉ visited.reverse := mt List.mem_reverse.mp isNew
    exact .head (.enter unmet) ih

/-- The stack holds the visits that the recursion has still to make. -/
theorem reverse_visit (visited stack : List String) :
    (graph.visit visited stack).reverse = stack.foldl graph.preorder visited.reverse := by
  fun_induction visit graph visited stack with
  | case1 visited => rfl
  | case2 visited id rest before ih =>
    rw [List.foldl_cons, preorder_eq, if_pos (List.mem_reverse.mpr before), ih]
  | case3 visited id rest isNew ih =>
    have unmet : id ∉ visited.reverse := mt List.mem_reverse.mp isNew
    rw [List.foldl_cons, preorder_eq, if_neg unmet, ih, List.foldl_append, List.reverse_cons]

/-- A traversal of a single id meets it first. -/
theorem Traversal.head? {id : String} {order : List String} (walk : graph.Traversal [] [id] order) :
    order.head? = some id := by
  cases walk with
  | skip before _ => cases before
  | expand _ _ _ => rfl

/-- The loop for the closure of an id empties its stack, and the closure is what the recursive visit notes.
It starts with the id, holds nothing twice, and consists of the ids that re-exports lead to from there. -/
theorem closure_eq_preorder (id : String) :
    ReflTransGen graph.Turn ⟨[], [id]⟩ ⟨graph.closure id, []⟩ ∧
      graph.closure id = graph.preorder [] id ∧
      (graph.closure id).head? = some id ∧ (graph.closure id).Nodup ∧
      ∀ target, target ∈ graph.closure id ↔ ReflTransGen graph.Edge id target := by
  refine ⟨graph.turns_visit [] [id], graph.reverse_visit [] [id], ?_, ?_, ?_⟩
  · exact (graph.closure_traversal id).head?
  · exact (graph.closure_traversal id).nodup
  · intro target
    exact graph.mem_closure_iff

/-- A module that is re-exported twice stands where it is met first, and a cycle is entered once. -/
example : closure ⟨[("a", ["b", "c"]), ("b", ["d", "a"]), ("c", ["d"])]⟩ "a" = ["a", "b", "d", "c"] := by
  cbv

end Pruning.ReexportGraph
