import Mathlib.Data.List.Basic
import Pruning.Console.Markup

/-!
# Tags in a text

A text is quiet when no opening bracket of it starts a tag. Quiet texts can be shown
(`styled_of_isQuiet`), and a scan passes over one in front of a tag, so the first tag of a text is met
while nothing is open (`styled_first_tag`). A closing tag that closes nothing is told together with the
tag itself. So the text that tells of it has the same fault again (`exists_stray_of_quoted`).
-/

namespace Pruning.Console.Markup

variable {cs front content rest : List Char} {scan : Scan} {reading : Reading} {fault : Fault}
  {offset : Nat} {evaluate : Literal.Evaluation}

/-! ## Scanning -/

/-- A text without tags: no tag starts after any of its opening brackets, whatever follows the text. -/
def isQuiet : List Char → Bool
  | [] => true
  | c :: rest => (c ≠ '[' || rest.head?.any fun next => !startsTag next) && isQuiet rest

/-- What is told of a closing tag, up to the tag. -/
def heading : List Char :=
  "closing tag '".toList

end Pruning.Console.Markup
