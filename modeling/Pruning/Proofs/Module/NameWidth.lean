import Pruning.Proofs.Module.Lines

/-!
# Names that do not fit on a line

A manifest is folded without regard to where a name ends, and the reader looks for the name, the colon and
one space on the first line of a header. So a header is read as it was written exactly when the three fit
on a line (`read_manifestText_iff`). A name that leaves room for the colon only has its space on the next
line, where it becomes part of the value (`read_manifestText_of_colon`); a longer name is itself cut, and
its first line is refused (`read_manifestText_of_cut`).
-/

namespace Pruning.Module

open Manifest

/-- A module whose manifest is a single header, which says nothing of dependencies. -/
structure HoldsOnly (m : Module) (name value : String) : Prop where
  headers : m.headers = [(name, value)]
  requires : m.requires = []
  packages : m.packageImports = []
  lineEnding : m.lineEnding ∈ Text.lineEndings
  named : isHeaderName name.toList = true
  notRequire : name ≠ Header.require
  notPackage : name ≠ Header.importPackage
  unbroken : Text.Unbroken value.toList

variable {m : Module} {name value : String}

/-- A single header is written as it is. -/
theorem manifestLines_of_only (only : m.HoldsOnly name value) :
    m.manifestLines = fold (name.toList ++ [':', ' '] ++ value.toList) := by
  have requires := requireLines_of_nil only.requires
  have packages := packageLines_of_nil only.packages
  rw [manifestLines, only.headers, requires, packages]
  simp [linesOf, only.notRequire, only.notPackage]

/-- The lines of a manifest with a single header are the lines of that header. -/
theorem lines_of_only (only : m.HoldsOnly name value) :
    Text.lines m.manifestText.toList = fold (name.toList ++ [':', ' '] ++ value.toList) := by
  have colon : Text.Unbroken [':', ' '] := by decide
  have whole := ((unbroken_of_isHeaderName only.named).append colon).append only.unbroken
  have unbroken : ∀ line ∈ m.manifestLines, Text.Unbroken line := by
    rw [manifestLines_of_only only]
    exact unbroken_fold whole
  have filled : m.manifestLines ≠ [] := by
    rw [manifestLines_of_only only]
    exact fold_ne_nil _
  rw [lines_manifestText only.lineEnding unbroken, manifestLines_of_only only]
  simp [fold_ne_nil]

/-- A name that fits on a line, with its colon and space, comes back with its value. -/
theorem read_manifestText_of_short (only : m.HoldsOnly name value) (short : name.length ≤ 70)
    (file : Option String) : Manifest.read m.manifestText file = .ok [(name, value)] := by
  have fits : name.length + 2 ≤ lineWidth := Nat.add_le_add_right short 2
  have spells := Spells.fold only.named fits value.toList []
  simp only [continued, List.map_nil, List.append_nil, List.flatten_nil, String.ofList_toList] at spells
  have found := lines_of_only only
  rw [← List.append_nil (fold _)] at found
  exact spells.read_of_lines (List.nodup_singleton name) found (Or.inl rfl) file

/-- A name that fits on a line with its colon, but not with the space, has the space in its value. -/
theorem read_manifestText_of_colon (only : m.HoldsOnly name value) (length : name.length = 71)
    (file : Option String) : Manifest.read m.manifestText file = .ok [(name, " " ++ value)] := by
  have full : size (name.toList ++ [':']) = lineWidth := by
    rw [size_append, size_of_isHeaderName only.named, String.length_toList, length]
    rfl
  obtain ⟨pieces, lines, whole⟩ := fold_full full (' ' :: value.toList)
  have order : name.toList ++ [':', ' '] ++ value.toList =
      name.toList ++ [':'] ++ ' ' :: value.toList := by simp
  have spaced : "" ++ String.ofList (' ' :: value.toList) = " " ++ value := by
    rw [← String.toList_inj]
    simp
  have next := readLines_continued 2 name "" [] pieces []
  rw [whole, spaced, List.append_nil] at next
  have first : readLines 1 [] (fold (name.toList ++ [':', ' '] ++ value.toList)) =
      .ok [(name, " " ++ value)] := by
    rw [order, lines, readLines_colon only.named List.not_mem_nil]
    exact next
  rw [Manifest.read, lines_of_only only, first]

/-- A name that does not fit on a line with its colon is cut, and what is left of it on the first line
is no header. -/
theorem read_manifestText_of_cut (only : m.HoldsOnly name value) (long : 71 < name.length)
    (file : Option String) : Manifest.read m.manifestText file =
      .error ⟨.notAHeader 1 (String.ofList (name.toList.take lineWidth)), file, none⟩ := by
  have lineWidth_eq : lineWidth = 72 := rfl
  have letters : ∀ c ∈ name.toList.take lineWidth, isNameChar c = true := by
    intro c held
    exact isNameChar_of_mem only.named (List.mem_of_mem_take held)
  have full : size (name.toList.take lineWidth) = lineWidth := by
    rw [size_of_nameChars letters, List.length_take, String.length_toList]
    omega
  have order : name.toList ++ [':', ' '] ++ value.toList =
      name.toList.take lineWidth ++ (name.toList.drop lineWidth ++ [':', ' '] ++ value.toList) := by
    rw [← List.append_assoc, ← List.append_assoc, List.take_append_drop]
  obtain ⟨pieces, lines, -⟩ := fold_full full (name.toList.drop lineWidth ++ [':', ' '] ++ value.toList)
  have filled : name.toList.take lineWidth ≠ [] := by
    intro nothing
    rw [nothing] at full
    cases full
  have starts : (name.toList.take lineWidth).head? ≠ some ' ' := by
    rw [List.head?_take, if_neg (by omega)]
    exact head?_of_isHeaderName only.named
  have colonless : ':' ∉ name.toList.take lineWidth := fun held => absurd (letters _ held) (by decide)
  rw [Manifest.read, lines_of_only only, order, lines, readLines_colonless filled starts colonless]

/-- A module with a single header is read as it was written exactly when the name of the header has at
most 70 characters. -/
theorem read_manifestText_iff (only : m.HoldsOnly name value) (file : Option String) :
    Manifest.read m.manifestText file = .ok [(name, value)] ↔ name.length ≤ 70 := by
  constructor
  · intro back
    by_contra long
    rcases Nat.lt_or_ge 71 name.length with cut | colon
    · rw [read_manifestText_of_cut only cut] at back
      cases back
    · rw [read_manifestText_of_colon only (by omega)] at back
      simp at back
  · intro short
    exact read_manifestText_of_short only short file

/-- A module that was not read from a manifest, with one header. -/
def labelled (name value : String) : Module where
  mark := 0
  id := ""
  version := "1.0.0"
  requires := []
  packages := none
  headers := [(name, value)]
  metadataExports := none
  location := none
  lineEnding := "\r\n"

/-- The longest name that comes back, with a value that starts and ends with a space, and a name with one
character more. -/
theorem read_manifestText_iff_border :
    let name := String.ofList (List.replicate 70 'N')
    let longer := String.ofList (List.replicate 71 'N')
    Manifest.read (labelled name " é: ").manifestText none = .ok [(name, " é: ")] ∧
      Manifest.read (labelled longer " é: ").manifestText none ≠ .ok [(longer, " é: ")] := by
  intro name longer
  have short : (labelled name " é: ").HoldsOnly name " é: " :=
    ⟨rfl, rfl, rfl, by decide, by decide, by decide, by decide, by decide⟩
  have long : (labelled longer " é: ").HoldsOnly longer " é: " :=
    ⟨rfl, rfl, rfl, by decide, by decide, by decide, by decide, by decide⟩
  constructor
  · exact (read_manifestText_iff short none).mpr (by decide)
  · exact mt (read_manifestText_iff long none).mp (by decide)

end Pruning.Module
