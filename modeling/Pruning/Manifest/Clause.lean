import Pruning.Manifest.Fault
import Pruning.Text.Blank

/-!
Clauses, the elements of a header value. A value is a list of clauses separated by commas; a clause is
a list of names, attributes `key=value` and directives `key:=value` separated by semicolons. Between
double quotes neither separator counts.
-/

namespace Pruning.Manifest

/-- Splits a text at the separators outside quotes. `quoted` tells whether the cursor is inside quotes,
`piece` is the reversed start of the current piece and `done` the reversed pieces before it. -/
def splitFrom (separator : Char) (quoted : Bool) (piece : List Char) (done : List (List Char)) :
    List Char → Option (List (List Char))
  | [] => if quoted then none else some (piece.reverse :: done).reverse
  | c :: rest =>
    let quoted := if c = '"' then !quoted else quoted
    if c = separator ∧ quoted = false then splitFrom separator quoted [] (piece.reverse :: done) rest
    else splitFrom separator quoted (c :: piece) done rest

/-- The pieces between the separators that lie outside quotes; none when a quote is left open. -/
def splitOutside (separator : Char) (cs : List Char) : Option (List (List Char)) :=
  splitFrom separator false [] [] cs

/-- One element of a header value. -/
structure Clause where
  names : List String
  attributes : Fields String
  directives : Fields String
  deriving DecidableEq, Repr

/-- A value without the quotes around it. -/
def unquote (cs : List Char) : List Char :=
  match Text.trim cs with
  | '"' :: rest => if rest.getLast? = some '"' then rest.dropLast else '"' :: rest
  | cs => cs

/-- Whether a character keeps a value from being written bare. -/
def needsQuotes (c : Char) : Bool :=
  c = ',' || c = ';' || c = ':' || c = '=' || c = '"' || Text.isBlank c

/-- A parameter value as it is written: bare when it can be, in quotes otherwise. -/
def writeValue (value : String) : String :=
  if value.isEmpty || value.toList.any needsQuotes then "\"" ++ value ++ "\"" else value

namespace Clause

/-- A clause as it is written. -/
def text (clause : Clause) : String :=
  ";".intercalate
    (clause.names ++ clause.attributes.map (fun entry => entry.1 ++ "=" ++ writeValue entry.2) ++
      clause.directives.map fun entry => entry.1 ++ ":=" ++ writeValue entry.2)

/-- What one part of a clause is. -/
inductive Part where
  | name (name : List Char)
  | attribute (key value : List Char)
  | directive (key value : List Char)
  deriving DecidableEq, Repr

/-- Takes a trimmed part of a clause apart at its first equals sign. -/
def Part.of (cs : List Char) : Part :=
  let key := cs.takeWhile (· ≠ '=')
  match cs.dropWhile (· ≠ '=') with
  | [] => .name cs
  | _ :: value =>
    if key.getLast? = some ':' then .directive (Text.trim key.dropLast) (unquote value)
    else .attribute (Text.trim key) (unquote value)

/-- Adds a part to a clause; nothing when the part has no key. -/
def add (clause : Clause) (part : Part) : Option Clause :=
  match part with
  | .name name => some { clause with names := clause.names ++ [String.ofList name] }
  | .attribute key value =>
    if key.isEmpty then none
    else
      some { clause with
        attributes := Fields.put (String.ofList key) (String.ofList value) clause.attributes }
  | .directive key value =>
    if key.isEmpty then none
    else
      some { clause with
        directives := Fields.put (String.ofList key) (String.ofList value) clause.directives }

/-- Reads a clause; blank parts are skipped. -/
def read (cs : List Char) : Except Fault Clause :=
  match splitOutside ';' cs with
  | none => .error (.openQuote (String.ofList cs))
  | some pieces =>
    let parts := ((pieces.map Text.trim).filter fun piece => !piece.isEmpty).map Part.of
    match parts.foldlM add ⟨[], [], []⟩ with
    | none => .error (.keylessParameter (String.ofList cs))
    | some clause =>
      if clause.names.isEmpty then .error (.namelessClause (String.ofList cs)) else .ok clause

end Clause

/-- Reads the clauses of a value; blank clauses are skipped. -/
def readClauses (value : List Char) : Except Fault (List Clause) :=
  if Text.isBlankText value then .ok []
  else
    match splitOutside ',' value with
    | none => .error (.openQuote (String.ofList value))
    | some pieces => (pieces.filter fun piece => !Text.isBlankText piece).mapM Clause.read

/-- Reads the clauses of a header that may be missing; `header` is the name shown when its value is
refused. -/
def clausesOf (value : Option String) (header : Option String) : Except Refusal (List Clause) :=
  match readClauses (value.getD "").toList with
  | .ok clauses => .ok clauses
  | .error fault => .error ⟨fault, none, header⟩

/-- Every name that a header declares, in order. -/
def namesOf (value : Option String) (header : Option String) : Except Refusal (List String) :=
  match clausesOf value header with
  | .ok clauses => .ok (clauses.flatMap Clause.names)
  | .error refusal => .error refusal

end Pruning.Manifest
