import Mathlib.Data.List.Basic

/-!
# Maps that may fail

A map over a list gives results for all of its items or the failure of one of them (`mapM_cases`), and what
it gives was found for one of the items (`exists_of_mem_mapM`).
-/

namespace Pruning

variable {α β ε : Type} {f : α → Except ε β} {items : List α} {results : List β}

/-- A map that may fail gives results for all of the items, or the failure of one of them. -/
theorem mapM_cases (f : α → Except ε β) (items : List α) :
    (∃ failure, items.mapM f = .error failure ∧ ∃ item ∈ items, f item = .error failure) ∨
      (∃ results, items.mapM f = .ok results) ∧ ∀ item ∈ items, ∃ result, f item = .ok result := by
  induction items with
  | nil => exact Or.inr ⟨⟨[], rfl⟩, List.forall_mem_nil _⟩
  | cons item items ih =>
    rw [List.mapM_cons]
    cases first : f item with
    | error failure => exact Or.inl ⟨failure, rfl, item, List.mem_cons_self, first⟩
    | ok result =>
      rcases ih with ⟨failure, later, other, among, failed⟩ | ⟨⟨results, later⟩, each⟩
      · rw [later]
        exact Or.inl ⟨failure, rfl, other, List.mem_cons_of_mem item among, failed⟩
      · rw [later]
        exact Or.inr ⟨⟨result :: results, rfl⟩, List.forall_mem_cons.mpr ⟨⟨result, first⟩, each⟩⟩

theorem mapM_of_ok (each : ∀ item ∈ items, ∃ result, f item = .ok result) :
    ∃ results, items.mapM f = .ok results := by
  rcases mapM_cases f items with ⟨failure, -, item, among, failed⟩ | ⟨made, -⟩
  · obtain ⟨result, made⟩ := each item among
    rw [failed] at made
    cases made
  · exact made

theorem mapM_option_of_ok {item : Option α} (each : ∀ a, item = some a → ∃ b, f a = .ok b) :
    ∃ found, item.mapM f = .ok found := by
  cases item with
  | none => exact ⟨none, rfl⟩
  | some a =>
    obtain ⟨b, first⟩ := each a rfl
    exact ⟨some b, by rw [Option.mapM_some, first]; rfl⟩

/-- What is found by a map that may fail was found for one of the items. -/
theorem exists_of_mem_mapM {result : β} (found : items.mapM f = .ok results)
    (held : result ∈ results) : ∃ item ∈ items, f item = .ok result := by
  induction items generalizing results with
  | nil =>
    cases found
    cases held
  | cons item items ih =>
    rw [List.mapM_cons] at found
    cases first : f item with
    | error failure =>
      rw [first] at found
      cases found
    | ok made =>
      cases others : items.mapM f with
      | error failure =>
        rw [first, others] at found
        cases found
      | ok rest =>
        rw [first, others] at found
        cases found
        rcases List.mem_cons.mp held with rfl | later
        · exact ⟨item, List.mem_cons_self, first⟩
        · obtain ⟨item, among, made⟩ := ih others later
          exact ⟨item, List.mem_cons_of_mem _ among, made⟩

end Pruning
