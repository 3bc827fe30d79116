/-!
Likeness of words, for guesses at what a misspelt word was meant to be. Two words share the longest piece
that both contain, and what the parts before it and the parts after it share. They are alike when three
fifths of all their characters are shared.
-/

namespace Pruning.Text

/-- The length of the longest common start of two texts. -/
def commonStart : List Char → List Char → Nat
  | a :: as, b :: bs => if a = b then commonStart as bs + 1 else 0
  | _, _ => 0

/-- A common piece: where it starts in either text, and its length. -/
structure CommonPiece where
  left : Nat
  right : Nat
  length : Nat
  deriving DecidableEq, Repr

/-- The longest common piece, of several the first in `a` and then the first in `b`. -/
def longestCommon (a b : List Char) : CommonPiece :=
  let starts := (List.range a.length).flatMap fun i => (List.range b.length).map fun j => (i, j)
  starts.foldl
    (fun best start =>
      let length := commonStart (a.drop start.1) (b.drop start.2)
      if best.length < length then ⟨start.1, start.2, length⟩ else best)
    ⟨0, 0, 0⟩

/-- How many characters two texts share. Each piece found leaves shorter texts, so `fuel` need not be more
than the length of the first. -/
def sharedBy : Nat → List Char → List Char → Nat
  | 0, _, _ => 0
  | fuel + 1, a, b =>
    let piece := longestCommon a b
    if piece.length = 0 then 0
    else
      piece.length + sharedBy fuel (a.take piece.left) (b.take piece.right) +
        sharedBy fuel (a.drop (piece.left + piece.length)) (b.drop (piece.right + piece.length))

/-- How many characters two words share. -/
def shared (a b : String) : Nat :=
  sharedBy a.length a.toList b.toList

/-- Whether two words are alike. -/
def isAlike (a b : String) : Bool :=
  decide (3 * (a.length + b.length) ≤ 10 * shared a b)

/-- How many guesses are made. -/
def guessLimit : Nat := 3

/-- Whether `a` is a better guess for a word than `b`: it shares the greater part of its characters with the
word. Of equals, the later in the alphabet is better. -/
def isBetterGuess (word a b : String) : Bool :=
  let left := shared a word * (b.length + word.length)
  let right := shared b word * (a.length + word.length)
  decide (right < left) || (left = right && decide (b ≤ a))

/-- The best guesses for a word among some others, in alphabetical order. -/
def guesses (word : String) (known : List String) : List String :=
  let alike := (known.filter fun other => isAlike other word).mergeSort (isBetterGuess word)
  (alike.take guessLimit).mergeSort fun a b => decide (a ≤ b)

end Pruning.Text
