/-!
Versions of modules: an epoch, release numbers, and optional marks for pre-releases, post-releases,
development releases and local builds. Versions are compared by `Version.key`, a list of lists of
numbers in lexicographic order, so that comparing is a total preorder: `1.0` and `1.0.0` have one key.
-/

namespace Pruning

/-- The stage of a pre-release. A preview that is written with `İ` or `ı` is a stage of its own. -/
inductive Stage where
  | alpha
  | beta
  | dottedPreview
  | dotlessPreview
  | candidate
  deriving DecidableEq, Repr

namespace Stage

/-- The rank of a stage: stages are ordered as their letters are. -/
def rank : Stage → Nat
  | .alpha => 1
  | .beta => 2
  | .dottedPreview => 3
  | .dotlessPreview => 4
  | .candidate => 5

/-- The letters of a stage. -/
def text : Stage → String
  | .alpha => "a"
  | .beta => "b"
  | .dottedPreview => "previ\u0307ew"
  | .dotlessPreview => "prevıew"
  | .candidate => "rc"

end Stage

/-- How a post-release is marked: with `post` or a shorter form of it, or with `poſt`. -/
inductive PostMark where
  | usual
  | longS
  deriving DecidableEq, Repr

/-- The rank of a mark: marks are ordered as their letters are. -/
def PostMark.rank : PostMark → Nat
  | .usual => 0
  | .longS => 1

/-- A segment of a local build mark. -/
inductive Segment where
  | number (value : Nat)
  | word (value : String)
  deriving DecidableEq, Repr

namespace Segment

/-- A segment as numbers. Any word comes before any number, and the zero after a word puts it before
every longer word that starts with it. -/
def key : Segment → List Nat
  | .number n => [2, n]
  | .word w => 1 :: w.toList.map (·.toNat + 1) ++ [0]

/-- A segment as text. -/
def text : Segment → String
  | .number n => toString n
  | .word w => w

end Segment

/-- A version. -/
structure Version where
  epoch : Nat
  release : List Nat
  pre : Option (Stage × Nat)
  post : Option (PostMark × Nat)
  dev : Option Nat
  build : Option (List Segment)
  deriving DecidableEq, Repr

namespace Version

/-- The version of a module whose version cannot be read. -/
def zero : Version :=
  ⟨0, [0], none, none, none, none⟩

/-- The release numbers without the zeros at their end. -/
def releaseKey (release : List Nat) : List Nat :=
  (release.reverse.dropWhile (· = 0)).reverse

/-- Where the pre-release mark puts a version: a development release of a final version comes before
all of its pre-releases, the final version and its post-releases after them. -/
def preKey (v : Version) : List Nat :=
  match v.pre with
  | some (stage, n) => [stage.rank, n]
  | none => if v.post.isNone && v.dev.isSome then [] else [6]

/-- The mark and the number of a post-release; other versions come before it. -/
def postKey (v : Version) : List Nat :=
  match v.post with
  | some (mark, n) => [mark.rank, n]
  | none => []

/-- What versions are compared by, the most important part first. -/
def key (v : Version) : List (List Nat) :=
  [[v.epoch], releaseKey v.release, v.preKey, v.postKey,
    match v.dev with
    | some n => [0, n]
    | none => [1],
    (v.build.getD []).flatMap Segment.key]

/-- Whether `v` is at most `w`. -/
def le (v w : Version) : Bool :=
  !decide (w.key < v.key)

/-- How `v` compares with `w`. -/
def order (v w : Version) : Ordering :=
  if v.key < w.key then .lt else if w.key < v.key then .gt else .eq

/-- A version in its normal form. -/
def text (v : Version) : String :=
  (if v.epoch = 0 then "" else toString v.epoch ++ "!") ++
    ".".intercalate (v.release.map toString) ++
    (match v.pre with
      | some (stage, n) => stage.text ++ toString n
      | none => "") ++
    (match v.post with
      | some (_, n) => ".post" ++ toString n
      | none => "") ++
    (match v.dev with
      | some n => ".dev" ++ toString n
      | none => "") ++
    match v.build with
    | some segments => "+" ++ ".".intercalate (segments.map Segment.text)
    | none => ""

end Version

end Pruning
