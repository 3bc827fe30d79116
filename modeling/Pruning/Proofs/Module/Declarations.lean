import Pruning.Module.Reader
import Pruning.Module.Writer
import Pruning.Proofs.Manifest.Clauses

/-!
# Declarations come back

The clause of a declaration that can be written is plain, and what a list of such clauses declares is the
list of declarations it was made from, with marks for their new positions (`Module.requirements_clauses`,
`Module.importedPackages_clauses`).
-/

namespace Pruning

open Manifest

/-- A requirement whose clause can be read back. The two directives that are written from the flags must
not be among the others. -/
structure ModuleImport.Writable (required : ModuleImport) : Prop where
  id : Word required.id.toList
  attributes : Parameters required.attributes
  closed : ∀ entry ∈ required.attributes, entry.1.toList.getLast? ≠ some ':'
  directives : Parameters required.directives
  visibility : ModuleImport.visibilityKey ∉ Fields.keys required.directives
  resolution : ModuleImport.resolutionKey ∉ Fields.keys required.directives

/-- A package import whose clause can be read back. -/
structure PackageImport.Writable (package : PackageImport) : Prop where
  name : Word package.name.toList
  attributes : Parameters package.attributes
  closed : ∀ entry ∈ package.attributes, entry.1.toList.getLast? ≠ some ':'
  directives : Parameters package.directives

/-- Parameters stay readable when one is entered. -/
theorem Manifest.Parameters.put {fields : Fields String} {key value : String}
    (parameters : Parameters fields) (word : Word key.toList) (clean : Clean value.toList) :
    Parameters (Fields.put key value fields) where
  keys entry held := by
    rcases Fields.mem_put held with rfl | held
    · exact word
    · exact parameters.keys entry held
  values entry held := by
    rcases Fields.mem_put held with rfl | held
    · exact clean
    · exact parameters.values entry held
  distinct := Fields.nodup_keys_put parameters.distinct

namespace ModuleImport

variable {required : ModuleImport}

theorem plain_clause (writable : required.Writable) : required.clause.Plain where
  named := List.cons_ne_nil _ _
  names _ held := List.mem_singleton.mp held ▸ writable.id
  attributes := writable.attributes
  closed := writable.closed
  directives := by
    have visible : Parameters (if required.reexported then
        Fields.put visibilityKey reexportValue required.directives else required.directives) := by
      split
      · exact writable.directives.put (by decide) (by decide)
      · exact writable.directives
    rw [clause]
    dsimp only
    split
    · exact visible.put (by decide) (by decide)
    · exact visible

theorem get?_visibility (writable : required.Writable) :
    Fields.get? visibilityKey required.clause.directives =
      if required.reexported then some reexportValue else none := by
  have absent := Fields.get?_eq_none_iff.mpr writable.visibility
  have apart : resolutionKey ≠ visibilityKey := by decide
  rw [clause]
  cases required.optional <;> cases required.reexported <;> simp [Fields.get?_put, apart, absent]

theorem get?_resolution (writable : required.Writable) :
    Fields.get? resolutionKey required.clause.directives =
      if required.optional then some optionalValue else none := by
  have absent := Fields.get?_eq_none_iff.mpr writable.resolution
  have apart : visibilityKey ≠ resolutionKey := by decide
  rw [clause]
  cases required.optional <;> cases required.reexported <;> simp [Fields.get?_put, apart, absent]

theorem erase_clause (writable : required.Writable) :
    Fields.erase resolutionKey (Fields.erase visibilityKey required.clause.directives) =
      required.directives := by
  have first := Fields.erase_of_not_mem writable.visibility
  have second := Fields.erase_of_not_mem writable.resolution
  have apart : resolutionKey ≠ visibilityKey := by decide
  rw [clause]
  cases required.optional <;> cases required.reexported <;>
    simp [Fields.erase_put_of_ne apart, Fields.erase_put_self, first, second]

/-- The clause of a requirement declares the requirement. -/
theorem requirement_clause (writable : required.Writable) (mark : Mark) :
    Module.requirement mark required.id required.clause = { required with mark := mark } := by
  have attributes : required.clause.attributes = required.attributes := rfl
  rw [Module.requirement, get?_visibility writable, get?_resolution writable,
    erase_clause writable, attributes]
  cases required
  simp

end ModuleImport

theorem PackageImport.plain_clause {package : PackageImport} (writable : package.Writable) :
    package.clause.Plain where
  named := List.cons_ne_nil _ _
  names _ held := List.mem_singleton.mp held ▸ writable.name
  attributes := writable.attributes
  closed := writable.closed
  directives := writable.directives

namespace Module

/-- Clauses with one name each are the clauses of these names. -/
theorem namedClauses_map {α : Type} {clause : α → Clause} {name : α → String}
    (single : ∀ item, (clause item).names = [name item]) (items : List α) :
    namedClauses (items.map clause) = items.map fun item => (name item, clause item) := by
  rw [namedClauses, List.flatMap_map]
  simp only [single, List.map_cons, List.map_nil]
  exact List.map_eq_flatMap.symm

/-- The requirements of clauses made from requirements are these, marked anew. -/
theorem requirements_clauses {requires : List ModuleImport}
    (writable : ∀ required ∈ requires, required.Writable) (owner : Nat) :
    requirements owner (requires.map ModuleImport.clause) =
      requires.mapIdx fun index required => { required with mark := ⟨owner, index⟩ } := by
  rw [requirements, namedClauses_map fun _ => rfl]
  apply List.ext_getElem
  · simp
  · intro index _ inside
    have declared : index < requires.length := by simpa using inside
    rw [List.getElem_mapIdx, List.getElem_mapIdx, List.getElem_map]
    exact ModuleImport.requirement_clause (writable _ (List.getElem_mem declared)) _

/-- The package imports of clauses made from package imports are these, marked anew. -/
theorem importedPackages_clauses (packages : List PackageImport) (owner : Nat) :
    importedPackages owner (packages.map PackageImport.clause) =
      packages.mapIdx fun index package => { package with mark := ⟨owner, index⟩ } := by
  rw [importedPackages, namedClauses_map fun _ => rfl]
  apply List.ext_getElem
  · simp
  · intro index _ _
    rw [List.getElem_mapIdx, List.getElem_mapIdx, List.getElem_map]
    rfl

end Module

end Pruning
