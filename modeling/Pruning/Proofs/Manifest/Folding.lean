import Mathlib
import Pruning.Manifest.Folding

/-!
# Folded text is whole

Folding cuts a text into pieces and puts a space in front of each but the first (`foldFrom_pieces`). A
start that fits on a line is not cut (`fold_pieces`), so a header line keeps its name. The current line
never gets wider than a line may be (`size_le_of_mem_foldFrom`), so a text is folded into lines that fit and
from which it is read again (`folds_fold`, `folds_foldContinued`).
-/

namespace Pruning.Manifest

/-- The bytes of a text. -/
def size (cs : List Char) : Nat :=
  (cs.map Char.utf8Size).sum

/-- The lines that continue a line: each has one space and then a piece of the text. -/
def continued (pieces : List (List Char)) : List (List Char) :=
  pieces.map (' ' :: ·)

variable {start cs line found : List Char} {done : List (List Char)} {width : Nat}

theorem size_cons (c : Char) (cs : List Char) : size (c :: cs) = c.utf8Size + size cs :=
  List.sum_cons

theorem size_append (cs ds : List Char) : size (cs ++ ds) = size cs + size ds := by
  rw [size, List.map_append, List.sum_append_nat]
  rfl

theorem size_eq_utf8Len (cs : List Char) : size cs = String.utf8Len cs := by
  induction cs with
  | nil => rfl
  | cons c cs ih => rw [size_cons, String.utf8Len_cons, ih, Nat.add_comm]

theorem size_reverse (cs : List Char) : size cs.reverse = size cs := by
  rw [size_eq_utf8Len, size_eq_utf8Len, String.utf8Len_reverse]

/-- The lines that are done stay in front. -/
theorem foldFrom_append (done before : List (List Char)) (line : List Char) (width : Nat)
    (cs : List Char) :
    foldFrom (done ++ before) line width cs = before.reverse ++ foldFrom done line width cs := by
  fun_induction foldFrom done line width cs with
  | case1 done line width => simp [foldFrom]
  | case2 done line width c rest full ih =>
    rw [foldFrom, if_pos full]
    exact ih
  | case3 done line width c rest fits ih =>
    rw [foldFrom, if_neg fits]
    exact ih

/-- A character that does not fit ends the current line and starts the next one. -/
theorem foldFrom_break {c : Char} (tooWide : lineWidth < width + c.utf8Size) (line rest : List Char) :
    foldFrom [] line width (c :: rest) =
      line.reverse :: foldFrom [] [c, ' '] (1 + c.utf8Size) rest := by
  rw [foldFrom, if_pos tooWide]
  exact foldFrom_append [] [line.reverse] [c, ' '] (1 + c.utf8Size) rest

/-- What is left of a text goes to the end of the current line and to lines that continue it. -/
theorem foldFrom_pieces (line : List Char) (width : Nat) (cs : List Char) :
    ∃ piece pieces, foldFrom [] line width cs = (line.reverse ++ piece) :: continued pieces ∧
      piece ++ pieces.flatten = cs := by
  induction cs generalizing line width with
  | nil => exact ⟨[], [], by simp [foldFrom, continued], rfl⟩
  | cons c rest ih =>
    by_cases tooWide : lineWidth < width + c.utf8Size
    -- A character that does not fit leaves an empty piece on the current line.
    · obtain ⟨piece, pieces, lines, whole⟩ := ih [c, ' '] (1 + c.utf8Size)
      refine ⟨[], (c :: piece) :: pieces, ?_, ?_⟩
      · rw [foldFrom_break tooWide, lines, List.append_nil]
        rfl
      · rw [← whole]
        rfl
    · obtain ⟨piece, pieces, lines, whole⟩ := ih (c :: line) (width + c.utf8Size)
      refine ⟨c :: piece, pieces, ?_, ?_⟩
      · rw [foldFrom, if_neg tooWide, lines, List.reverse_cons, List.append_assoc]
        rfl
      · rw [← whole]
        rfl

/-- A start that fits on the current line stays on it. -/
theorem foldFrom_fits (fits : width + size start ≤ lineWidth) (done : List (List Char))
    (line cs : List Char) :
    foldFrom done line width (start ++ cs) =
      foldFrom done (start.reverse ++ line) (width + size start) cs := by
  induction start generalizing line width with
  | nil => rfl
  | cons c start ih =>
    rw [size_cons] at fits ⊢
    have here : ¬ lineWidth < width + c.utf8Size := by omega
    rw [List.cons_append, foldFrom, if_neg here, ih (by omega), Nat.add_assoc, List.reverse_cons,
      List.append_assoc]
    rfl

/-- The lines of a header: its start and a piece on the first, then one piece on each. -/
theorem fold_pieces (fits : size start ≤ lineWidth) (cs : List Char) :
    ∃ piece pieces, fold (start ++ cs) = (start ++ piece) :: continued pieces ∧
      piece ++ pieces.flatten = cs := by
  have kept : 0 + size start ≤ lineWidth := by omega
  obtain ⟨piece, pieces, lines, whole⟩ := foldFrom_pieces (start.reverse ++ []) (0 + size start) cs
  refine ⟨piece, pieces, ?_, whole⟩
  rw [fold, foldFrom_fits kept, lines, List.append_nil, List.reverse_reverse]

theorem fold_ne_nil (cs : List Char) : fold cs ≠ [] := by
  obtain ⟨piece, pieces, lines, -⟩ := foldFrom_pieces [] 0 cs
  rw [fold, lines]
  exact List.cons_ne_nil _ _

/-- The lines of a text whose start fills a line: that start, then the pieces of the rest. -/
theorem fold_full (full : size start = lineWidth) (cs : List Char) :
    ∃ pieces, fold (start ++ cs) = start :: continued pieces ∧ pieces.flatten = cs := by
  have kept : 0 + size start ≤ lineWidth := by omega
  rw [fold, foldFrom_fits kept, List.append_nil]
  cases cs with
  | nil => exact ⟨[], by simp [foldFrom, continued], rfl⟩
  | cons c rest =>
    have tooWide : lineWidth < 0 + size start + c.utf8Size := by
      have filled := c.utf8Size_pos
      omega
    obtain ⟨piece, pieces, lines, whole⟩ := foldFrom_pieces [c, ' '] (1 + c.utf8Size) rest
    refine ⟨(c :: piece) :: pieces, ?_, ?_⟩
    · rw [foldFrom_break tooWide, lines, List.reverse_reverse]
      rfl
    · rw [← whole]
      rfl

/-- The lines of a text that continues a header. -/
theorem foldContinued_pieces (cs : List Char) :
    ∃ pieces, foldContinued cs = continued pieces ∧ pieces.flatten = cs := by
  obtain ⟨piece, pieces, lines, whole⟩ := foldFrom_pieces [' '] 1 cs
  exact ⟨piece :: pieces, lines, whole⟩

/-! ## Width -/

/-- The current line is never wider than a line may be, and neither is a line that it was before. -/
theorem size_le_of_mem_foldFrom (before : ∀ line ∈ done, size line ≤ lineWidth)
    (counted : size line = width) (fits : width ≤ lineWidth)
    (held : found ∈ foldFrom done line width cs) : size found ≤ lineWidth := by
  have lineWidth_eq : lineWidth = 72 := rfl
  fun_induction foldFrom done line width cs with
  | case1 done line width =>
    rcases List.mem_cons.mp (List.mem_reverse.mp held) with rfl | earlier
    · rwa [size_reverse, counted]
    · exact before found earlier
  | case2 done line width c rest full ih =>
    -- A character has at most four bytes, so a new line has room for it after its space.
    have small := c.utf8Size_le_four
    refine ih (List.forall_mem_cons.mpr ⟨?_, before⟩) ?_ (by omega) held
    · rwa [size_reverse, counted]
    · rw [size_cons, Nat.add_comm]
      rfl
  | case3 done line width c rest room ih =>
    refine ih before ?_ (by omega) held
    rw [size_cons, counted, Nat.add_comm]

theorem size_le_of_mem_fold (held : found ∈ fold cs) : size found ≤ lineWidth :=
  size_le_of_mem_foldFrom (List.forall_mem_nil _) rfl (Nat.zero_le _) held

theorem size_le_of_mem_foldContinued (held : found ∈ foldContinued cs) : size found ≤ lineWidth :=
  size_le_of_mem_foldFrom (List.forall_mem_nil _) rfl (by decide) held

/-- Lines that a text is folded into: none is wider than 72 bytes, each but the first has one space put in
front of it, and without these spaces they make up the text. -/
structure Folds (cs : List Char) (lines : List (List Char)) : Prop where
  filled : lines ≠ []
  narrow : ∀ line ∈ lines, (String.ofList line).utf8ByteSize ≤ 72
  spaced : ∀ line ∈ lines.tail, line.head? = some ' '
  whole : unfold lines = cs

theorem folds_of_pieces {piece : List Char} {pieces : List (List Char)}
    (narrow : ∀ line ∈ piece :: continued pieces, size line ≤ lineWidth)
    (whole : piece ++ pieces.flatten = cs) : Folds cs (piece :: continued pieces) where
  filled := List.cons_ne_nil _ _
  narrow line held := by
    rw [String.utf8ByteSize_ofList, ← size_eq_utf8Len]
    exact narrow line held
  spaced line held := by
    obtain ⟨other, -, rfl⟩ := List.mem_map.mp held
    rfl
  whole := by
    rw [unfold, continued, List.flatMap_map]
    simpa using whole

theorem folds_fold (cs : List Char) : Folds cs (fold cs) := by
  obtain ⟨piece, pieces, lines, whole⟩ := foldFrom_pieces [] 0 cs
  have cut : fold cs = piece :: continued pieces := lines
  rw [cut]
  exact folds_of_pieces (fun line held => size_le_of_mem_fold (cut ▸ held)) whole

/-- A text that continues a header is folded as if there were an empty line before it. -/
theorem folds_foldContinued (cs : List Char) :
    foldContinued cs ≠ [] ∧ Folds cs ([] :: foldContinued cs) := by
  obtain ⟨piece, pieces, lines, whole⟩ := foldFrom_pieces [' '] 1 cs
  have cut : foldContinued cs = continued (piece :: pieces) := lines
  refine ⟨?_, ?_⟩
  · rw [cut]
    exact List.cons_ne_nil _ _
  · rw [cut]
    refine folds_of_pieces (List.forall_mem_cons.mpr ⟨Nat.zero_le _, ?_⟩) whole
    exact fun line held => size_le_of_mem_foldContinued (cut ▸ held)

end Pruning.Manifest
