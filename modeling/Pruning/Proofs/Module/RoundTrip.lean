import Pruning.Proofs.Module.Lines

/-!
# Manifests come back

A module that is written and read again declares the same dependencies, with marks for their positions,
and is written as the same text.
-/

namespace Pruning.Module

open Manifest

/-- Headers whose clauses can be read describe a module. -/
theorem ofHeaders_of_clauses {headers : Fields String} {idClauses required imported : List Clause}
    (identified : clausesOf (Fields.get? Header.moduleId headers) (some Header.moduleId) =
      .ok idClauses)
    (requiring : clausesOf (Fields.get? Header.require headers) (some Header.require) = .ok required)
    (importing : clausesOf (Fields.get? Header.importPackage headers) (some Header.importPackage) =
      .ok imported)
    (mark : Nat) (source : Source) :
    ∃ m, ofHeaders mark headers source = .ok m ∧ m.headers = headers ∧
      m.lineEnding = source.lineEnding ∧ m.requires = requirements mark required ∧
      m.packages = if Fields.has Header.importPackage headers then
        some (importedPackages mark imported) else none := by
  apply Exists.intro
  constructor
  · rw [ofHeaders]
    simp only [identified, requiring, importing]
    rfl
  · exact ⟨rfl, rfl, rfl, rfl⟩

/-- What does not depend on marks is the same after declarations are marked anew. -/
theorem map_mapIdx_of_same {α β : Type} {anew : Nat → α → α} {shown : α → β}
    (same : ∀ index item, shown (anew index item) = shown item) (items : List α) :
    (items.mapIdx anew).map shown = items.map shown := by
  apply List.ext_getElem
  · simp
  · intro index _ _
    rw [List.getElem_map, List.getElem_mapIdx, List.getElem_map, same]

/-- The manifest of a module that can be written is read again: the headers stay in their order, the
dependency headers list the declarations, and the same declarations are read from them, with marks for
their positions. Written once more, the module has the same manifest. -/
theorem ofHeaders_manifestText (m : Module) (writable : m.Writable) (file : Option String)
    (mark : Nat) (source : Source) :
    ∃ reread, Manifest.read m.manifestText file = .ok m.writtenHeaders ∧
      ofHeaders mark m.writtenHeaders source = .ok reread ∧
      reread.requires =
        m.requires.mapIdx (fun index required => { required with mark := ⟨mark, index⟩ }) ∧
      reread.packageImports =
        m.packageImports.mapIdx (fun index package => { package with mark := ⟨mark, index⟩ }) ∧
      (source.lineEnding = m.lineEnding → reread.manifestText = m.manifestText) := by
  obtain ⟨idClauses, identified⟩ := writable.moduleId
  rw [← get?_writtenHeaders writable (by decide) (by decide)] at identified
  have requiring : clausesOf (Fields.get? Header.require m.writtenHeaders) (some Header.require) =
      .ok (m.requires.map ModuleImport.clause) := by
    rw [get?_require writable]
    exact clausesOf_listed (plain_requires writable) _
  have importing : clausesOf (Fields.get? Header.importPackage m.writtenHeaders)
      (some Header.importPackage) = .ok (m.packageImports.map PackageImport.clause) := by
    rw [get?_importPackage writable]
    exact clausesOf_listed (plain_packages writable) _
  obtain ⟨reread, described, headers, ending, requires, packages⟩ :=
    ofHeaders_of_clauses identified requiring importing mark source
  rw [requirements_clauses writable.requires] at requires
  rw [importedPackages_clauses, has_importPackage writable] at packages
  have imports : reread.packageImports =
      m.packageImports.mapIdx fun index package => { package with mark := ⟨mark, index⟩ } := by
    rw [packageImports, packages]
    cases m.packageImports with
    | nil => rfl
    | cons first others => rfl
  refine ⟨reread, read_manifestText writable file, described, requires, imports, fun same => ?_⟩
  have requireLines : reread.requireLines = m.requireLines := by
    rw [Module.requireLines, requires]
    refine congrArg (headerLines _) (map_mapIdx_of_same ?_ _)
    exact fun _ _ => rfl
  have packageLines : reread.packageLines = m.packageLines := by
    rw [Module.packageLines, imports]
    refine congrArg (headerLines _) (map_mapIdx_of_same ?_ _)
    exact fun _ _ => rfl
  rw [manifestText, ending, same,
    manifestLines_writtenHeaders writable headers requireLines packageLines, manifestText]

/-- A module with a header of its own, two requirements and a package import that its manifest did not
declare. -/
def editor : Module where
  mark := 0
  id := "org.editor"
  version := "1.0.0"
  requires := [
    ⟨⟨0, 0⟩, "org.core", true, false, [("bundle-version", "[1.0,2.0)")], []⟩,
    ⟨⟨0, 1⟩, "org.text", false, true, [], [("x", "a b")]⟩]
  packages := some [⟨⟨0, 0⟩, "org.log", [("version", "")], []⟩]
  headers := [("Bundle-SymbolicName", "org.editor;singleton:=true"), ("Require-Bundle", "org.old"),
    ("Bundle-Name", " Éditeur: \"one\", two")]
  metadataExports := none
  location := none
  lineEnding := "\r\n"

theorem editor_writable : editor.Writable where
  lineEnding := by decide
  names := by decide
  short := by decide
  distinct := by decide
  values := by decide
  moduleId := ⟨[⟨["org.editor"], [], [("singleton", "true")]⟩], by rfl⟩
  requires := by
    intro required held
    simp only [editor, List.mem_cons, List.not_mem_nil, or_false] at held
    rcases held with rfl | rfl
    · exact ⟨by decide, ⟨by decide, by decide, by decide⟩, by decide,
        ⟨by decide, by decide, by decide⟩, by decide, by decide⟩
    · exact ⟨by decide, ⟨by decide, by decide, by decide⟩, by decide,
        ⟨by decide, by decide, by decide⟩, by decide, by decide⟩
  packages := by
    intro package held
    rw [List.mem_singleton.mp held]
    exact ⟨by decide, ⟨by decide, by decide, by decide⟩, by decide,
      ⟨by decide, by decide, by decide⟩⟩

theorem ofHeaders_manifestText_editor : ∃ reread,
    Manifest.read editor.manifestText none = .ok [
      ("Bundle-SymbolicName", "org.editor;singleton:=true"),
      ("Require-Bundle", "org.core;bundle-version=\"[1.0,2.0)\";visibility:=reexport," ++
        "org.text;x:=\"a b\";resolution:=optional"),
      ("Bundle-Name", " Éditeur: \"one\", two"), ("Import-Package", "org.log;version=\"\"")] ∧
    ofHeaders 7 editor.writtenHeaders ⟨none, none, "\r\n"⟩ = .ok reread ∧
    reread.requires = [
      ⟨⟨7, 0⟩, "org.core", true, false, [("bundle-version", "[1.0,2.0)")], []⟩,
      ⟨⟨7, 1⟩, "org.text", false, true, [], [("x", "a b")]⟩] ∧
    reread.packageImports = [⟨⟨7, 0⟩, "org.log", [("version", "")], []⟩] ∧
    reread.manifestText = editor.manifestText := by
  obtain ⟨reread, read, described, requires, imports, again⟩ :=
    ofHeaders_manifestText editor editor_writable none 7 ⟨none, none, "\r\n"⟩
  have headers : editor.writtenHeaders = [
      ("Bundle-SymbolicName", "org.editor;singleton:=true"),
      ("Require-Bundle", "org.core;bundle-version=\"[1.0,2.0)\";visibility:=reexport," ++
        "org.text;x:=\"a b\";resolution:=optional"),
      ("Bundle-Name", " Éditeur: \"one\", two"), ("Import-Package", "org.log;version=\"\"")] := by
    decide
  rw [headers] at read
  exact ⟨reread, read, described, requires, imports, again rfl⟩

end Pruning.Module
