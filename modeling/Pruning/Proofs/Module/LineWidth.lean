import Pruning.Proofs.Module.NameWidth

/-!
# The width of the lines of a manifest

Every line that is written comes from folding (`folded_of_mem_manifestLines`), so it holds at most 72 bytes.
A header value may hold line boundaries of its own; they make lines shorter, for no line of the text goes
beyond one that was written (`manifestText_narrow`).
-/

namespace Pruning.Module

open Manifest

variable {m : Module} {line : List Char}

/-- Lines that folding makes of some text. -/
def Folded (line : List Char) : Prop :=
  ∃ cs, line ∈ fold cs ∨ line ∈ foldContinued cs

theorem size_le_of_folded (folded : Folded line) : size line ≤ lineWidth := by
  obtain ⟨cs, starts | continues⟩ := folded
  · exact size_le_of_mem_fold starts
  · exact size_le_of_mem_foldContinued continues

theorem folded_of_mem_clauseLines {clauses : List (List Char)} (held : line ∈ clauseLines clauses) :
    Folded line := by
  fun_induction clauseLines clauses with
  | case1 => cases held
  | case2 last => exact ⟨last, Or.inr held⟩
  | case3 clause rest filled ih =>
    rcases List.mem_append.mp held with here | later
    · exact ⟨_, Or.inr here⟩
    · exact ih later

theorem folded_of_mem_headerLines {name : String} {clauses : List (List Char)}
    (held : line ∈ headerLines name clauses) : Folded line := by
  cases clauses with
  | nil => cases held
  | cons first others =>
    cases others with
    | nil => exact ⟨_, Or.inl held⟩
    | cons second others =>
      rcases List.mem_append.mp held with here | later
      · exact ⟨_, Or.inl here⟩
      · exact folded_of_mem_clauseLines later

theorem folded_of_mem_linesOf {header : String × String} (held : line ∈ m.linesOf header) :
    Folded line := by
  rw [linesOf] at held
  split at held
  case isTrue => exact folded_of_mem_headerLines held
  case isFalse =>
    split at held
    case isTrue => exact folded_of_mem_headerLines held
    case isFalse => exact ⟨_, Or.inl held⟩

/-- Every line of a manifest comes from folding. -/
theorem folded_of_mem_manifestLines (held : line ∈ m.manifestLines) : Folded line := by
  rw [manifestLines] at held
  rcases List.mem_append.mp held with held | package
  · rcases List.mem_append.mp held with own | require
    · obtain ⟨header, -, among⟩ := List.mem_flatMap.mp own
      exact folded_of_mem_linesOf among
    · split at require
      case isTrue => cases require
      case isFalse => exact folded_of_mem_headerLines require
  · split at package
    case isTrue => cases package
    case isFalse => exact folded_of_mem_headerLines package

/-- A text is folded into lines of at most 72 bytes, from which it is read again, whether it starts a header
or continues one. So the lines of every manifest have at most 72 bytes, both those that are written and
those that are found in the text when headers hold line boundaries. -/
theorem manifestText_narrow :
    (∀ cs, Folds cs (fold cs)) ∧
      (∀ cs, foldContinued cs ≠ [] ∧ Folds cs ([] :: foldContinued cs)) ∧
      ∀ m : Module, m.lineEnding ∈ Text.lineEndings →
        (∀ line ∈ m.manifestLines, (String.ofList line).utf8ByteSize ≤ 72) ∧
        ∀ line ∈ Text.lines m.manifestText.toList, (String.ofList line).utf8ByteSize ≤ 72 := by
  refine ⟨folds_fold, folds_foldContinued, fun m usual => ?_⟩
  have written : ∀ line ∈ m.manifestLines, (String.ofList line).utf8ByteSize ≤ 72 := by
    intro line held
    rw [String.utf8ByteSize_ofList, ← size_eq_utf8Len]
    exact size_le_of_folded (folded_of_mem_manifestLines held)
  refine ⟨written, fun line held => ?_⟩
  rw [manifestText, String.toList_ofList] at held
  rcases Text.run_of_mem_lines_intercalate usual held with rfl | ⟨whole, among, part⟩
  · exact Nat.zero_le _
  · have wide := written whole among
    rw [String.utf8ByteSize_ofList] at wide ⊢
    exact (String.utf8Len_le_of_infix part).trans wide

/-- A value of two-byte characters that fills a line, with a line boundary of its own. -/
theorem manifestText_narrow_accents :
    let accents := List.replicate 40 'é' ++ '\u2028' :: List.replicate 9 'é'
    let m := labelled "Bundle-Names" (String.ofList accents)
    (∀ line ∈ m.manifestLines, (String.ofList line).utf8ByteSize ≤ 72) ∧
      (∀ line ∈ Text.lines m.manifestText.toList, (String.ofList line).utf8ByteSize ≤ 72) ∧
      (Text.lines m.manifestText.toList).map List.length = [43, 12, 9] := by
  intro accents m
  obtain ⟨written, found⟩ := manifestText_narrow.2.2 m (by decide)
  exact ⟨written, found, by decide +kernel⟩

end Pruning.Module
