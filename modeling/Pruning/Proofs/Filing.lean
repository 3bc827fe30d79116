import Pruning.Filing

/-!
# What an operation on a workspace comes to

An operation comes to an outcome and a workspace (`Filing.result`); its records do not matter for them.
-/

namespace Pruning.Filing

variable {α β : Type} {w after : Workspace} {first : Filing α} {failure : Failure}

/-- The outcome of an operation, and the workspace that it leaves behind. -/
def result (filing : Filing α) (w : Workspace) : Except Failure α × Workspace :=
  ((filing w).1.outcome, (filing w).2)

theorem result_bind_of_ok {a : α} (next : α → Filing β) (answers : first.result w = (.ok a, after)) :
    result (first >>= next) w = (next a).result after := by
  change result (first.andThen next) w = _
  obtain ⟨answered, rfl⟩ := Prod.mk.inj answers
  rw [result, andThen]
  dsimp only
  rw [answered]
  rfl

theorem result_bind_of_error (next : α → Filing β) (fails : first.result w = (.error failure, after)) :
    result (first >>= next) w = (.error failure, after) := by
  change result (first.andThen next) w = _
  obtain ⟨failed, rfl⟩ := Prod.mk.inj fails
  rw [result, andThen]
  dsimp only
  rw [failed]

/-- An operation that answers has answered at every step. -/
theorem answer_of_bind {next : α → Filing β} {b : β}
    (answers : result (first >>= next) w = (.ok b, after)) :
    ∃ a middle, first.result w = (.ok a, middle) ∧ (next a).result middle = (.ok b, after) := by
  cases ends : first.result w with
  | mk outcome middle =>
    cases outcome with
    | error failure =>
      rw [result_bind_of_error next ends] at answers
      cases answers
    | ok a =>
      rw [result_bind_of_ok next ends] at answers
      exact ⟨a, middle, rfl, answers⟩

@[simp]
theorem result_look_bind (next : Workspace → Filing β) : result (look >>= next) w = (next w).result w :=
  result_bind_of_ok next rfl

theorem result_orElse_of_ok {a : α} (recover : Failure → Filing α)
    (answers : first.result w = (.ok a, after)) : (first.orElse recover).result w = (.ok a, after) := by
  obtain ⟨answered, rfl⟩ := Prod.mk.inj answers
  rw [result, orElse]
  dsimp only
  rw [answered]

theorem result_orElse_of_error (recover : Failure → Filing α)
    (fails : first.result w = (.error failure, after)) :
    (first.orElse recover).result w = (recover failure).result after := by
  obtain ⟨failed, rfl⟩ := Prod.mk.inj fails
  rw [result, orElse]
  dsimp only
  rw [failed]
  rfl

end Pruning.Filing
