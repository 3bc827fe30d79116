/-!
Folding long lines. A line of a manifest holds at most 72 bytes of UTF-8; a longer text goes on in
continuation lines, each of which starts with one space. A character is never split over two lines.
-/

namespace Pruning.Manifest

/-- The most bytes of a line, the space of a continuation line included. -/
def lineWidth : Nat := 72

/-- Folds a text. `line` is the reversed start of the current line, `width` its size in bytes, and
`done` the reversed list of the lines before it. -/
def foldFrom (done : List (List Char)) (line : List Char) (width : Nat) :
    List Char → List (List Char)
  | [] => (line.reverse :: done).reverse
  | c :: rest =>
    if lineWidth < width + c.utf8Size then
      foldFrom (line.reverse :: done) [c, ' '] (1 + c.utf8Size) rest
    else foldFrom done (c :: line) (width + c.utf8Size) rest

/-- The lines of a text that starts a header. -/
def fold (cs : List Char) : List (List Char) :=
  foldFrom [] [] 0 cs

/-- The lines of a text that continues a header. -/
def foldContinued (cs : List Char) : List (List Char) :=
  foldFrom [] [' '] 1 cs

/-- The text that folded lines stand for, when the first line starts it. -/
def unfold (lines : List (List Char)) : List Char :=
  match lines with
  | [] => []
  | first :: rest => first ++ rest.flatMap (List.drop 1)

end Pruning.Manifest
