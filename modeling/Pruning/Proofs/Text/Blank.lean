import Mathlib.Data.List.DropRight
import Mathlib.Data.List.TakeWhile
import Pruning.Text.Blank

/-!
# Trimmed texts

A text is its own trimmed form exactly when it neither starts nor ends with white space
(`trim_eq_self_iff`), so what stands between two trimmed texts does not matter (`trim_between`).
-/

namespace Pruning.Text

variable {cs left right : List Char}

theorem trimEnd_eq_rdropWhile (cs : List Char) : trimEnd cs = cs.rdropWhile isBlank :=
  rfl

theorem trim_sublist (cs : List Char) : (trim cs).Sublist cs := by
  rw [trim, trimEnd_eq_rdropWhile]
  exact (List.rdropWhile_prefix isBlank _).sublist.trans (List.dropWhile_sublist isBlank)

/-- What is trimmed from a text is white space. -/
theorem exists_trim (cs : List Char) : ∃ before after, cs = before ++ trim cs ++ after ∧
    (∀ c ∈ before, isBlank c = true) ∧ ∀ c ∈ after, isBlank c = true := by
  have start := List.takeWhile_append_dropWhile (p := isBlank) (l := cs)
  have stop := List.rdropWhile_append_rtakeWhile (p := isBlank) (l := cs.dropWhile isBlank)
  refine ⟨cs.takeWhile isBlank, (cs.dropWhile isBlank).rtakeWhile isBlank, ?_, ?_, ?_⟩
  · rw [trim, trimEnd_eq_rdropWhile, List.append_assoc, stop, start]
  · exact fun c held => List.mem_takeWhile_imp held
  · exact fun c held => List.mem_rtakeWhile_imp held

theorem dropWhile_eq_self_iff :
    cs.dropWhile isBlank = cs ↔ ∀ c ∈ cs.head?, isBlank c = false := by
  cases cs with
  | nil => simp
  | cons c cs => simp [List.dropWhile_eq_self_iff]

theorem trimEnd_eq_self_iff : trimEnd cs = cs ↔ ∀ c ∈ cs.getLast?, isBlank c = false := by
  rw [trimEnd_eq_rdropWhile, List.rdropWhile_eq_self_iff]
  rcases List.eq_nil_or_concat cs with rfl | ⟨start, c, rfl⟩
  · simp
  · simp

theorem trim_eq_self_iff : trim cs = cs ↔
    (∀ c ∈ cs.head?, isBlank c = false) ∧ ∀ c ∈ cs.getLast?, isBlank c = false := by
  rw [← dropWhile_eq_self_iff, ← trimEnd_eq_self_iff]
  constructor
  · intro trimmed
    have shorter : (trim cs).length ≤ (cs.dropWhile isBlank).length :=
      List.IsPrefix.length_le (List.rdropWhile_prefix isBlank _)
    rw [trimmed] at shorter
    have start : cs.dropWhile isBlank = cs :=
      (List.dropWhile_suffix isBlank).eq_of_length_le shorter
    rw [trim, start] at trimmed
    exact ⟨start, trimmed⟩
  · rintro ⟨start, trimmed⟩
    rw [trim, start, trimmed]

@[simp]
theorem trim_trim (cs : List Char) : trim (trim cs) = trim cs := by
  rw [trim_eq_self_iff, ← trimEnd_eq_self_iff]
  refine ⟨fun c first => ?_, List.rdropWhile_idempotent isBlank _⟩
  have start := dropWhile_eq_self_iff.mp (List.dropWhile_idempotent isBlank cs)
  obtain ⟨rest, whole⟩ : trim cs <+: cs.dropWhile isBlank := List.rdropWhile_prefix isBlank _
  rw [← whole, List.head?_append, Option.mem_def.mp first] at start
  exact start c rfl

/-- Nothing is trimmed from a text that starts and ends with trimmed texts. -/
theorem trim_between (leftTrimmed : trim left = left) (leftFilled : left ≠ [])
    (rightTrimmed : trim right = right) (rightFilled : right ≠ []) (middle : List Char) :
    trim (left ++ middle ++ right) = left ++ middle ++ right := by
  rw [trim_eq_self_iff] at leftTrimmed rightTrimmed ⊢
  constructor
  · intro c first
    rw [List.append_assoc, List.head?_append_of_ne_nil _ leftFilled] at first
    exact leftTrimmed.1 c first
  · intro c last
    rw [List.getLast?_append_of_ne_nil _ rightFilled] at last
    exact rightTrimmed.2 c last

/-- A text without white space is trimmed. -/
theorem trim_of_no_blank (solid : ∀ c ∈ cs, isBlank c = false) : trim cs = cs := by
  rw [trim_eq_self_iff]
  exact ⟨fun c first => solid c (List.mem_of_mem_head? first),
    fun c last => solid c (List.mem_of_mem_getLast? last)⟩

/-- Nothing is left of a text that is trimmed when it has nothing to show. -/
theorem trim_eq_nil_iff : trim cs = [] ↔ isBlankText cs = true := by
  rw [isBlankText, List.all_eq_true]
  constructor
  · intro nothing
    obtain ⟨before, after, whole, start, stop⟩ := exists_trim cs
    rw [nothing, List.append_nil] at whole
    rw [whole, List.forall_mem_append]
    exact ⟨start, stop⟩
  · intro blank
    have dropped : cs.dropWhile isBlank = [] := List.dropWhile_eq_nil_iff.mpr blank
    rw [trim, dropped]
    rfl

/-- A trimmed text that is not empty has something to show. -/
theorem isBlankText_of_trim (trimmed : trim cs = cs) (filled : cs ≠ []) :
    isBlankText cs = false := by
  rw [← Bool.not_eq_true, ← trim_eq_nil_iff, trimmed]
  exact filled

/-- A start of a trimmed text has something to show. -/
theorem trim_ne_nil_of_append (trimmed : trim (left ++ right) = left ++ right) (filled : left ≠ []) :
    trim left ≠ [] := by
  intro nothing
  rw [trim_eq_nil_iff, isBlankText, List.all_eq_true] at nothing
  obtain ⟨c, rest, rfl⟩ := List.exists_cons_of_ne_nil filled
  have shown := (trim_eq_self_iff.mp trimmed).1 c rfl
  rw [nothing c List.mem_cons_self] at shown
  cases shown

/-- Texts that are joined have something to show when the first of them has. -/
theorem isBlankText_intercalate (shows : isBlankText left = false) (between : List Char)
    (others : List (List Char)) : isBlankText (between.intercalate (left :: others)) = false := by
  cases others with
  | nil =>
    rw [List.intercalate_singleton]
    exact shows
  | cons second others =>
    rw [List.intercalate_cons_cons, List.append_assoc, isBlankText, List.all_append,
      Bool.and_eq_false_iff]
    exact Or.inl shows

end Pruning.Text
