/-!
Bytes as text in base 64: three bytes become four letters, and a shorter rest is filled up with equals
signs.
-/

namespace Pruning.Text.Base64

/-- The letters, by the value of six bits. -/
def letters : List Char :=
  "ABCDEFGHIJKLMNOPQRSTUVWXYZabcdefghijklmnopqrstuvwxyz0123456789+/".toList

/-- The letter of the last six bits of `n`. -/
def letter (n : Nat) : Char :=
  (letters[n % 64]?).getD '='

/-- The value of a letter. -/
def value (c : Char) : Nat :=
  if c = '=' then 0 else letters.findIdx (· == c)

/-- The value of a byte that stands for a letter. -/
def digit? (b : UInt8) : Option Nat :=
  letters.findIdx? (· == Char.ofNat b.toNat)

/-- The letters of some bytes. -/
def encode : List UInt8 → List Char
  | [] => []
  | [a] =>
    let n := a.toNat * 65536
    [letter (n / 262144), letter (n / 4096), '=', '=']
  | [a, b] =>
    let n := a.toNat * 65536 + b.toNat * 256
    [letter (n / 262144), letter (n / 4096), letter (n / 64), '=']
  | a :: b :: c :: rest =>
    let n := a.toNat * 65536 + b.toNat * 256 + c.toNat
    letter (n / 262144) :: letter (n / 4096) :: letter (n / 64) :: letter n :: encode rest

/-- The bytes that letters stand for. -/
def decode : List Char → List UInt8
  | a :: b :: c :: d :: rest =>
    let n := value a * 262144 + value b * 4096 + value c * 64 + value d
    let bytes := [(n / 65536).toUInt8, (n / 256).toUInt8, n.toUInt8]
    let count := if c = '=' then 1 else if d = '=' then 2 else 3
    bytes.take count ++ decode rest
  | _ => []

end Pruning.Text.Base64
