import Pruning.Manifest.Clause
import Pruning.Proofs.Text.Lines

/-!
# Quotes and separators

A text is cut at the first place of a character (`takeWhile_ne`, `dropWhile_ne`). It is sealed for a
separator when its quotes are closed and the separator does not stand outside of them. Sealed pieces
that are joined by the separator are just the pieces that splitting finds (`splitOutside_intercalate`).
-/

namespace Pruning.Manifest

section Cutting

variable {mark : Char} {front : List Char}

theorem takeWhile_ne (absent : mark ∉ front) (rest : List Char) :
    (front ++ mark :: rest).takeWhile (· ≠ mark) = front := by
  have before : ∀ c ∈ front, decide (c ≠ mark) = true :=
    fun c held => decide_eq_true fun same => absent (same ▸ held)
  rw [List.takeWhile_append_of_pos before, List.takeWhile_cons_of_neg (by simp), List.append_nil]

theorem dropWhile_ne (absent : mark ∉ front) (rest : List Char) :
    (front ++ mark :: rest).dropWhile (· ≠ mark) = mark :: rest := by
  have before : ∀ c ∈ front, decide (c ≠ mark) = true :=
    fun c held => decide_eq_true fun same => absent (same ▸ held)
  rw [List.dropWhile_append_of_pos before, List.dropWhile_cons_of_neg (by simp)]

end Cutting

/-- Texts, read inside quotes or not, that end outside of them and have no separator outside. -/
inductive Sealed (separator : Char) : Bool → List Char → Prop
  | nil : Sealed separator false []
  | quote {quoted : Bool} {cs : List Char} (later : Sealed separator (!quoted) cs) :
      Sealed separator quoted ('"' :: cs)
  | char {quoted : Bool} {c : Char} {cs : List Char} (mark : c ≠ '"')
      (inside : c = separator → quoted = true) (later : Sealed separator quoted cs) :
      Sealed separator quoted (c :: cs)

variable {separator : Char} {quoted : Bool} {cs ds : List Char}

namespace Sealed

theorem append (left : Sealed separator quoted cs) (right : Sealed separator false ds) :
    Sealed separator quoted (cs ++ ds) := by
  induction left with
  | nil => exact right
  | quote later ih => exact quote ih
  | char mark inside later ih => exact char mark inside ih

/-- A text without quotes and separators is sealed. -/
theorem bare (free : ∀ c ∈ cs, c ≠ '"' ∧ c ≠ separator) : Sealed separator false cs := by
  induction cs with
  | nil => exact nil
  | cons c cs ih =>
    have here := free c List.mem_cons_self
    have later := ih fun d held => free d (List.mem_cons_of_mem c held)
    exact char here.1 (fun same => absurd same here.2) later

/-- A text without quotes is sealed by quotes around it. -/
theorem enclosed (free : ∀ c ∈ cs, c ≠ '"') : Sealed separator false ('"' :: (cs ++ ['"'])) := by
  refine quote ?_
  induction cs with
  | nil => exact quote nil
  | cons c cs ih =>
    have later := ih fun d held => free d (List.mem_cons_of_mem c held)
    exact char (free c List.mem_cons_self) (fun _ => rfl) later

/-- Sealed texts that are joined by a sealed text are sealed. -/
theorem intercalate {pieces : List (List Char)}
    (each : ∀ piece ∈ pieces, Sealed separator false piece) (joint : Sealed separator false ds) :
    Sealed separator false (ds.intercalate pieces) :=
  Text.intercalate_closed nil (fun _ _ => append) each joint

/-- Splitting takes a sealed text as a whole. -/
theorem splitFrom_append (whole : Sealed separator quoted cs) (mark : separator ≠ '"')
    (piece : List Char) (done : List (List Char)) (rest : List Char) :
    splitFrom separator quoted piece done (cs ++ rest) =
      splitFrom separator false (cs.reverse ++ piece) done rest := by
  induction whole generalizing piece with
  | nil => rfl
  | @quote quoted cs later ih =>
    have apart : ¬('"' = separator ∧ (!quoted) = false) := fun both => mark both.1.symm
    rw [List.cons_append, splitFrom, if_pos rfl, if_neg apart, ih, List.reverse_cons,
      List.append_assoc]
    rfl
  | @char quoted c cs notMark inside later ih =>
    have apart : ¬(c = separator ∧ quoted = false) := by
      rintro ⟨same, outside⟩
      rw [inside same] at outside
      cases outside
    rw [List.cons_append, splitFrom, if_neg notMark, if_neg apart, ih, List.reverse_cons,
      List.append_assoc]
    rfl

end Sealed

theorem splitFrom_separator (mark : separator ≠ '"') (piece : List Char)
    (done : List (List Char)) (rest : List Char) :
    splitFrom separator false piece done (separator :: rest) =
      splitFrom separator false [] (piece.reverse :: done) rest := by
  rw [splitFrom, if_neg mark, if_pos ⟨rfl, rfl⟩]

/-- Splitting finds sealed pieces again that were joined by the separator. -/
theorem splitFrom_intercalate {pieces : List (List Char)} (filled : pieces ≠ [])
    (each : ∀ piece ∈ pieces, Sealed separator false piece) (mark : separator ≠ '"')
    (done : List (List Char)) :
    splitFrom separator false [] done ([separator].intercalate pieces) =
      some (done.reverse ++ pieces) := by
  induction pieces generalizing done with
  | nil => exact absurd rfl filled
  | cons first others ih =>
    have whole := (each first List.mem_cons_self).splitFrom_append mark []
    cases others with
    | nil =>
      have last := whole done []
      rw [List.append_nil, List.append_nil] at last
      rw [List.intercalate_singleton, last, splitFrom]
      simp
    | cons second others =>
      have later := fun piece held => each piece (List.mem_cons_of_mem first held)
      rw [List.intercalate_cons_cons, List.append_assoc, whole, List.singleton_append,
        splitFrom_separator mark, ih (List.cons_ne_nil _ _) later]
      simp

theorem splitOutside_intercalate {pieces : List (List Char)} (filled : pieces ≠ [])
    (each : ∀ piece ∈ pieces, Sealed separator false piece) (mark : separator ≠ '"') :
    splitOutside separator ([separator].intercalate pieces) = some pieces :=
  splitFrom_intercalate filled each mark []

end Pruning.Manifest
