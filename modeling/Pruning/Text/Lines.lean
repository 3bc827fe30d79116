/-!
Physical lines. A line ends at any of the Unicode line boundaries, and a carriage return followed by
a line feed counts as one boundary. Text after the last boundary is a line of its own only when it is
not empty.
-/

namespace Pruning.Text

/-- The characters that end a line. -/
def isLineBreak (c : Char) : Bool :=
  let n := c.toNat
  (10 ≤ n && n ≤ 13) || (28 ≤ n && n ≤ 30) || n == 0x85 || n == 0x2028 || n == 0x2029

/-- Collects lines; `line` is the reversed start of the line being read and `done` the reversed list
of the lines before it. -/
def linesFrom (done : List (List Char)) (line : List Char) : List Char → List (List Char)
  | [] => (if line.isEmpty then done else line.reverse :: done).reverse
  | c :: rest =>
    if isLineBreak c then
      match c, rest with
      | '\r', '\n' :: rest => linesFrom (line.reverse :: done) [] rest
      | _, rest => linesFrom (line.reverse :: done) [] rest
    else linesFrom done (c :: line) rest

/-- The lines of a text, without their line boundaries. -/
def lines (cs : List Char) : List (List Char) :=
  linesFrom [] [] cs

/-- A text in which every line ends with a line feed: a carriage return ends a line too, alone or before a
line feed. -/
def withLineFeeds : List Char → List Char
  | '\r' :: '\n' :: rest => '\n' :: withLineFeeds rest
  | c :: rest => (if c = '\r' then '\n' else c) :: withLineFeeds rest
  | [] => []

end Pruning.Text
