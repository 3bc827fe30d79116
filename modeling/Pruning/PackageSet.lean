/-!
Sets of package names, as sorted lists without repetitions.
-/

namespace Pruning

/-- A set of package names, in ascending order. -/
abbrev PackageSet := List String

namespace PackageSet

/-- The set of some names. -/
def ofList (names : List String) : PackageSet :=
  (names.mergeSort fun a b => decide (a ≤ b)).eraseReps

end PackageSet

end Pruning
