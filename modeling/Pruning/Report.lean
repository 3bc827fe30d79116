import Pruning.Json.Value

/-!
Reports of failures: a message, and named details in the order they are shown.
-/

namespace Pruning

/-- What a failure tells the user. -/
structure Report where
  message : String
  details : Fields Json

namespace Report

/-- A detail that is left out when there is nothing to tell. -/
def detail (name : String) (value : Option String) : Fields Json :=
  match value with
  | some value => [(name, .text value)]
  | none => []

/-- A report on one line: the message, then the details in parentheses. -/
def text (report : Report) : String :=
  if report.details.isEmpty then report.message
  else
    let shown := report.details.map fun entry => entry.1 ++ "=" ++ entry.2.display
    report.message ++ " (" ++ ", ".intercalate shown ++ ")"

/-- A report inside a message; `kind` names what failed. -/
def describe (kind : String) (report : Report) : String :=
  kind ++ "(message=" ++ Text.quoted report.message ++ ", details=" ++
    (Json.object report.details).literal ++ ")"

/-- The longest excerpt of an input that is shown in full. -/
def excerptLength : Nat := 200

/-- An excerpt of an input, cut when it is long. -/
def excerpt (s : String) : String :=
  let cs := s.toList
  if cs.length ≤ excerptLength then s
  else String.ofList (cs.take excerptLength ++ ['.', '.', '.'])

end Report

end Pruning
