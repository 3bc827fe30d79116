import Pruning.Proofs.Manifest.Headers
import Pruning.Proofs.Module.Headers

/-!
# The lines of a manifest that is written

The lines of a manifest spell its headers (`spells_manifestLines`), so the reader finds these headers
(`read_manifestText`). Written once more, with the same declarations, they make the same lines
(`manifestLines_writtenHeaders`).
-/

namespace Pruning.Module

open Manifest

variable {m : Module}

theorem clauseLines_pieces (clauses : List (List Char)) :
    ∃ pieces, clauseLines clauses = continued pieces ∧
      pieces.flatten = [','].intercalate clauses := by
  induction clauses with
  | nil => exact ⟨[], rfl, rfl⟩
  | cons first others ih =>
    cases others with
    | nil =>
      obtain ⟨pieces, lines, whole⟩ := foldContinued_pieces first
      exact ⟨pieces, lines, by rw [whole, List.intercalate_singleton]⟩
    | cons second others =>
      obtain ⟨pieces, lines, whole⟩ := ih
      obtain ⟨start, startLines, startWhole⟩ := foldContinued_pieces (first ++ [','])
      refine ⟨start ++ pieces, ?_, ?_⟩
      · rw [clauseLines, startLines, lines, continued, continued, continued, List.map_append]
        exact List.cons_ne_nil _ _
      · rw [List.flatten_append, startWhole, whole, List.intercalate_cons_cons]

/-- The lines of a dependency header spell it. -/
theorem spells_headerLines {name : String} (named : isHeaderName name.toList = true)
    (short : name.length ≤ 70) (clauses : List Clause) :
    Spells (headerLines name (clauses.map fun clause => clause.text.toList))
      (listed name clauses) := by
  have fits : name.length + 2 ≤ lineWidth := Nat.add_le_add_right short 2
  cases clauses with
  | nil => exact Spells.nil
  | cons first others =>
    cases others with
    | nil =>
      have folded := Spells.fold named fits first.text.toList []
      simpa [headerLines, listed, valueText, continued] using folded
    | cons second others =>
      obtain ⟨pieces, lines, whole⟩ :=
        clauseLines_pieces ((second :: others).map fun clause => clause.text.toList)
      have folded := Spells.fold named fits (first.text.toList ++ [',']) pieces
      rw [← lines, whole] at folded
      simpa [headerLines, listed, valueText] using folded

theorem spells_requireHeader (m : Module) : Spells m.requireLines m.requireHeader := by
  have named : isHeaderName Header.require.toList = true := by decide
  have lines := spells_headerLines named (by decide) (m.requires.map ModuleImport.clause)
  rw [List.map_map] at lines
  exact lines

theorem spells_packageHeader (m : Module) : Spells m.packageLines m.packageHeader := by
  have named : isHeaderName Header.importPackage.toList = true := by decide
  have lines := spells_headerLines named (by decide) (m.packageImports.map PackageImport.clause)
  rw [List.map_map] at lines
  exact lines

theorem spells_linesOf (writable : m.Writable) {header : String × String}
    (held : header ∈ m.headers) : Spells (m.linesOf header) (m.rewritten header) := by
  rw [linesOf, rewritten]
  split
  · exact spells_requireHeader m
  · split
    · exact spells_packageHeader m
    · have fits : header.1.length + 2 ≤ lineWidth := Nat.add_le_add_right (writable.short _ held) 2
      have folded := Spells.fold (writable.names _ held) fits header.2.toList []
      simpa [continued] using folded

theorem spells_manifestLines (writable : m.Writable) :
    Spells m.manifestLines m.writtenHeaders := by
  refine ((Spells.flatMap fun _ held => spells_linesOf writable held).append ?_).append ?_
  · split
    · exact Spells.nil
    · exact spells_requireHeader m
  · split
    · exact Spells.nil
    · exact spells_packageHeader m

/-- The lines of the text of a manifest. A module without lines is written as one empty line. -/
theorem lines_manifestText (usual : m.lineEnding ∈ Text.lineEndings)
    (unbroken : ∀ line ∈ m.manifestLines, Text.Unbroken line) :
    Text.lines m.manifestText.toList =
      m.manifestLines ++ if m.manifestLines.isEmpty then [[]] else [] := by
  rw [manifestText, String.toList_ofList]
  cases written : m.manifestLines with
  | nil =>
    have single : ∀ line ∈ [[]], Text.Unbroken line := by decide
    exact Text.lines_intercalate (List.cons_ne_nil _ _) single usual
  | cons first others =>
    rw [written] at unbroken
    rw [Text.lines_intercalate (List.cons_ne_nil _ _) unbroken usual]
    simp

/-- The reader finds the headers of the manifest that was written. -/
theorem read_manifestText (writable : m.Writable) (file : Option String) :
    Manifest.read m.manifestText file = .ok m.writtenHeaders := by
  have spells := spells_manifestLines writable
  have unbroken := spells.unbroken (unbroken_writtenHeaders writable)
  refine spells.read_of_lines (distinct_writtenHeaders writable)
    (lines_manifestText writable.lineEnding unbroken) ?_ file
  split
  · exact Or.inr rfl
  · exact Or.inl rfl

/-- Headers that are written by one rule are written as its lines, or not at all when they list
nothing. -/
theorem flatMap_listed {name : String} {clauses : List Clause} {lines : List (List Char)}
    {write : String × String → List (List Char)} (empty : clauses = [] → lines = [])
    (written : ∀ value, write (name, value) = lines) : (listed name clauses).flatMap write = lines := by
  cases clauses with
  | nil => exact (empty rfl).symm
  | cons first others =>
    rw [listed, if_neg (by simp), List.flatMap_singleton, written]

theorem requireLines_of_nil (empty : m.requires = []) : m.requireLines = [] := by
  rw [requireLines, empty]
  rfl

theorem packageLines_of_nil (empty : m.packageImports = []) : m.packageLines = [] := by
  rw [packageLines, empty]
  rfl

theorem flatMap_requireHeader (m : Module) :
    m.requireHeader.flatMap m.linesOf = m.requireLines := by
  refine flatMap_listed (fun empty => ?_) fun _ => by rw [linesOf, if_pos rfl]
  exact requireLines_of_nil (List.map_eq_nil_iff.mp empty)

theorem flatMap_packageHeader (m : Module) :
    m.packageHeader.flatMap m.linesOf = m.packageLines := by
  have apart : Header.importPackage ≠ Header.require := by decide
  refine flatMap_listed (fun empty => ?_) fun _ => by rw [linesOf, if_neg apart, if_pos rfl]
  exact packageLines_of_nil (List.map_eq_nil_iff.mp empty)

theorem flatMap_rewritten (m : Module) (header : String × String) :
    (m.rewritten header).flatMap m.linesOf = m.linesOf header := by
  rw [rewritten, linesOf]
  split
  · exact flatMap_requireHeader m
  · split
    · exact flatMap_packageHeader m
    · rw [List.flatMap_singleton, linesOf, if_neg ‹_›, if_neg ‹_›]

/-- A module with the headers that were written and the same declarations has the same lines. -/
theorem manifestLines_writtenHeaders {reread : Module} (writable : m.Writable)
    (headers : reread.headers = m.writtenHeaders) (requires : reread.requireLines = m.requireLines)
    (packages : reread.packageLines = m.packageLines) :
    reread.manifestLines = m.manifestLines := by
  have same : reread.linesOf = m.linesOf := by
    funext header
    rw [linesOf, linesOf, requires, packages]
  have noRequire : (if Fields.has Header.require m.writtenHeaders then [] else m.requireLines) =
      [] := by
    split
    case isTrue => rfl
    case isFalse missing =>
      rw [has_require writable] at missing
      exact requireLines_of_nil (by simpa using missing)
  have noPackage : (if Fields.has Header.importPackage m.writtenHeaders then [] else
      m.packageLines) = [] := by
    split
    case isTrue => rfl
    case isFalse missing =>
      rw [has_importPackage writable] at missing
      exact packageLines_of_nil (by simpa using missing)
  rw [manifestLines, headers, same, requires, packages, noRequire, noPackage, List.append_nil,
    List.append_nil, writtenHeaders, List.flatMap_append, List.flatMap_append, List.flatMap_assoc,
    manifestLines]
  simp only [flatMap_rewritten]
  congr 1
  · congr 1
    split
    · rfl
    · exact flatMap_requireHeader m
  · split
    · rfl
    · exact flatMap_packageHeader m

end Pruning.Module
