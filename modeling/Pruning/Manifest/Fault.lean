import Pruning.Report

/-!
Why a manifest is refused. The first three faults concern a line of the file, the others the value of
a header.
-/

namespace Pruning.Manifest

/-- A fault of a manifest. -/
inductive Fault where
  /-- A continuation line with no header before it. -/
  | strayContinuation (line : Nat) (content : String)
  /-- A line that is no header. -/
  | notAHeader (line : Nat) (content : String)
  /-- A second header of the same name. -/
  | duplicateHeader (line : Nat) (name : String)
  /-- A value with an odd number of quotes. -/
  | openQuote (value : String)
  /-- A parameter of a clause with nothing before its equals sign. -/
  | keylessParameter (clause : String)
  /-- A clause of parameters only. -/
  | namelessClause (clause : String)
  deriving DecidableEq, Repr

/-- A fault, with the file and the header it was found in as far as they are known. -/
structure Refusal where
  fault : Fault
  file : Option String
  header : Option String
  deriving DecidableEq, Repr

/-- What a fault is called. -/
def Fault.message : Fault → String
  | .strayContinuation _ _ => "Continuation line without a header"
  | .notAHeader _ _ => "Invalid manifest header line"
  | .duplicateHeader _ name => "Duplicate manifest header: " ++ name
  | .openQuote _ => "Unterminated quoted value"
  | .keylessParameter _ => "Parameter without a key"
  | .namelessClause _ => "Clause without a name"

/-- The report of a refusal. The file comes before the header for a fault of a line, and after it for
a fault of a value. -/
def Refusal.report (refusal : Refusal) : Report :=
  let file := Report.detail "file" refusal.file
  let header := Report.detail "header" refusal.header
  let content (text : String) := Report.detail "content" (some (Report.excerpt text))
  let details : Fields Json :=
    match refusal.fault with
    | .strayContinuation line text => ("line", .int line) :: content text ++ file ++ header
    | .notAHeader line text => ("line", .int line) :: content text ++ file ++ header
    | .duplicateHeader line name =>
      ("line", .int line) :: file ++ Report.detail "header" (some name)
    | .openQuote text => content text ++ header ++ file
    | .keylessParameter text => content text ++ header ++ file
    | .namelessClause text => content text ++ header ++ file
  ⟨refusal.fault.message, details⟩

end Pruning.Manifest
