import Pruning.Module.Basic
import Pruning.Script
import Pruning.Text.Blank
import Pruning.Unused

/-!
Declarations that are kept although nothing uses them: required modules that the module lists as its
buddies, and required modules that it re-exports.
-/

namespace Pruning

/-- The pieces of a text between commas, without the white space around the commas. -/
def commaPieces (cs : List Char) : List (List Char) :=
  (cs.splitOnP (· = ',')).map Text.trim

/-- The ids of the modules that `m` lists as its buddies. -/
def Module.buddies (m : Module) : List String :=
  match m.header Header.buddy with
  | none => []
  | some value =>
    ((commaPieces value.toList).filter fun piece => !piece.isEmpty).map String.ofList

namespace Entry

/-- Whether an entry is a required module that `m` lists as a buddy. -/
def isBuddy (m : Module) (entry : Entry) : Bool :=
  match entry with
  | .requirement required => m.buddies.contains required.id
  | .packageImport _ => false

/-- Whether an entry is a re-exported required module. -/
def isReexported : Entry → Bool
  | .requirement required => required.reexported
  | .packageImport _ => false

end Entry

/-- Drops buddies from the entries, with a record for each. -/
def keepBuddies (m : Module) (entries : List Entry) : Script (List Entry) := do
  for entry in entries.filter (Entry.isBuddy m) do
    .note .debug .filters ("Keeping buddy module " ++ entry.name)
  return entries.filter fun entry => !entry.isBuddy m

/-- Drops re-exported modules from the entries, with a record for each. -/
def keepReexported (entries : List Entry) : Script (List Entry) := do
  for entry in entries.filter Entry.isReexported do
    .note .debug .filters ("Keeping re-exported module " ++ entry.name)
  return entries.filter fun entry => !entry.isReexported

end Pruning
