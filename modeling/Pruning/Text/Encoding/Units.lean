import Pruning.Text.Encoding.Basic

/-!
Encodings in units of sixteen or thirty-two bits. The order of the bytes of a unit is given, or a mark at
the start of a text tells it. A character above the first 65536 is a pair of units of sixteen bits.
-/

namespace Pruning.Text

/-- The number that two bytes make. -/
def ByteOrder.join (order : ByteOrder) (a b : Nat) (weight : Nat) : Nat :=
  match order with
  | .little => a + b * weight
  | .big => a * weight + b

/-- The unit of sixteen bits that two bytes make. -/
def ByteOrder.unit16 (order : ByteOrder) (a b : UInt8) : Nat :=
  order.join a.toNat b.toNat 256

/-- The unit of thirty-two bits that four bytes make. -/
def ByteOrder.unit32 (order : ByteOrder) (a b c d : UInt8) : Nat :=
  order.join (order.unit16 a b) (order.unit16 c d) 65536

/-- Whether a unit is the first half of a pair. -/
def isFirstHalf (unit : Nat) : Bool :=
  0xD800 ≤ unit && unit < 0xDC00

/-- Whether a unit is the second half of a pair. -/
def isSecondHalf (unit : Nat) : Bool :=
  0xDC00 ≤ unit && unit < 0xE000

/-- The character of a pair of units. -/
def pairedChar (first second : Nat) : Char :=
  Char.ofNat (0x10000 + (first - 0xD800) * 0x400 + (second - 0xDC00))

/-- Reads units of sixteen bits from bytes that start at offset `pos`; `done` is what was read,
reversed. -/
def utf16Chars (order : ByteOrder) (pos : Nat) (done : List Char) :
    List UInt8 → Except DecodeFault (List Char)
  | [] => .ok done.reverse
  | [b] => .error ⟨.utf16 order, b, pos, pos + 1, .truncated⟩
  | a :: b :: rest =>
    let unit := order.unit16 a b
    let fault (stop : Nat) (reason : DecodeReason) : Except DecodeFault (List Char) :=
      .error ⟨.utf16 order, a, pos, stop, reason⟩
    if isSecondHalf unit then fault (pos + 2) .strayUnit
    else if isFirstHalf unit then
      match rest with
      | c :: d :: rest =>
        let second := order.unit16 c d
        if isSecondHalf second then utf16Chars order (pos + 4) (pairedChar unit second :: done) rest
        else fault (pos + 2) .unpairedUnit
      | rest => fault (pos + 2 + rest.length) .unexpectedEnd
    else utf16Chars order (pos + 2) (Char.ofNat unit :: done) rest

/-- Reads units of thirty-two bits from bytes that start at offset `pos`; `done` is what was read,
reversed. -/
def utf32Chars (order : ByteOrder) (pos : Nat) (done : List Char) :
    List UInt8 → Except DecodeFault (List Char)
  | a :: b :: c :: d :: rest =>
    let unit := order.unit32 a b c d
    let fault (reason : DecodeReason) : Except DecodeFault (List Char) :=
      .error ⟨.utf32 order, a, pos, pos + 4, reason⟩
    if isFirstHalf unit || isSecondHalf unit then fault .surrogate
    else if 0x110000 ≤ unit then fault .aboveLast
    else utf32Chars order (pos + 4) (Char.ofNat unit :: done) rest
  | [] => .ok done.reverse
  | b :: rest => .error ⟨.utf32 order, b, pos, pos + 1 + rest.length, .truncated⟩

/-- Reads units of either width in the order that a leading mark tells. Without a mark the bytes are
read in little order, and when nothing else is wrong with them, the missing mark is. -/
def markedChars (encoding : Encoding) (width : Nat)
    (read : ByteOrder → Nat → List UInt8 → Except DecodeFault (List Char)) (bytes : List UInt8) :
    Except DecodeFault (List Char) :=
  let start := bytes.take width
  let rest := bytes.drop width
  let mark : List UInt8 := [0xFF, 0xFE] ++ List.replicate (width - 2) 0
  if start = mark then read .little width rest
  else if start = mark.reverse then read .big width rest
  else
    match read .little 0 bytes with
    | .ok [] => .ok []
    | .ok _ => .error ⟨encoding, 0, 0, 0, .unmarked⟩
    | .error fault => .error fault

end Pruning.Text
