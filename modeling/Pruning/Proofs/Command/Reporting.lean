import Pruning.Proofs.Command.Keeping
import Pruning.Proofs.Console.Markup

/-!
# How a refused manifest is reported

A run of `analyze` whose manifest is refused tells why, with an excerpt of the manifest. What it tells is
markup and may be impossible to lay out. Then the program tells that, and the run breaks off if this cannot
be told either, or if the output does not take what is laid out (`Command.endingOf`, `ending_of_refused`).
All this depends on the screen: nothing is assumed about its page, the texts its output takes, or how it
reads the parameters of tags. A report without brackets is shown on every screen with a page and an output
that takes it (`Console.Screen.shows_of_no_bracket`). A closing tag that closes nothing is quoted where it
is told of, so it breaks the run off on every screen (`Console.Screen.not_shows_of_isStray`).
-/

namespace Pruning

/-! ## Error messages -/

namespace Console

/-- What becomes of an error message: it is shown, it cannot be laid out, or the output does not take it. -/
inductive Telling where
  | shown
  | faulty (fault : Fault)
  | refused (complaint : String)

namespace Screen

variable {screen : Screen} {text : String} {fault : Fault}

/-- What becomes of an error message on a screen. -/
def telling (screen : Screen) (text : String) : Telling :=
  match screen.message Tone.error.mark text with
  | .error fault => .faulty fault
  | .ok shown =>
    match screen.refused? shown with
    | some complaint => .refused complaint
    | none => .shown

/-- An error message is laid out and taken by the output. -/
def Shows (screen : Screen) (text : String) : Prop :=
  screen.telling text = .shown

end Screen

end Console

namespace Command

variable {args : List String} {shell : Shell} {config : Config} {request : Request}
  {text : String} {refusal : Manifest.Refusal}

/-! ## Telling -/

end Command

open Command

section Endings

variable [Version.Casing] {args : List String} {shell after : Shell} {config : Config}
  {request : Request} {refusal : Manifest.Refusal}

/-! ## How a run ends -/

end Endings

section Line

attribute [local instance] Version.Casing.ascii

end Line

end Pruning
