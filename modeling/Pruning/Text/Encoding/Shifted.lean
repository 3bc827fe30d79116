import Pruning.Text.Base64
import Pruning.Text.Encoding.Units

/-!
UTF-7: plain bytes, and shifted sections in which letters of base 64 stand for units of sixteen bits. A plus
sign starts a section; the first byte that is no letter ends it.
-/

namespace Pruning.Text

/-- A shifted section of a UTF-7 text. -/
structure Shift where
  /-- Where its plus sign stands. -/
  start : Nat
  /-- Whether it has a digit. -/
  hasDigits : Bool
  /-- How many bits are read and make no unit yet, and their value. -/
  bits : Nat
  value : Nat
  /-- A unit that is the first half of a pair. -/
  half : Option Nat

/-- What stands for half of a pair that is alone. -/
def loneHalf : Char := '\ufffd'

/-- A section with one more digit, and the characters that are complete then, reversed. -/
def Shift.push (s : Shift) (digit : Nat) : Shift × List Char :=
  let bits := s.bits + 6
  let value := s.value * 64 + digit
  if bits < 16 then ({ s with hasDigits := true, bits, value }, [])
  else
    let unit := value >>> (bits - 16)
    let s := { s with hasDigits := true, bits := bits - 16, value := value % (1 <<< (bits - 16)) }
    match s.half with
    | some first =>
      if isSecondHalf unit then ({ s with half := none }, [pairedChar first unit])
      else if isFirstHalf unit then ({ s with half := some unit }, [loneHalf])
      else ({ s with half := none }, [Char.ofNat unit, loneHalf])
    | none =>
      if isFirstHalf unit then ({ s with half := some unit }, [])
      else if isSecondHalf unit then (s, [loneHalf])
      else (s, [Char.ofNat unit])

/-- What is wrong with a section that ends before the byte `b`. -/
def Shift.fault? (s : Shift) (b : UInt8) : Option DecodeReason :=
  if !s.hasDigits then if b = 0x2D then none else some .emptySection
  else if 6 ≤ s.bits then some .partialUnit
  else if s.value ≠ 0 then some .nonzeroPadding
  else none

/-- What a section leaves behind that ends before the byte `b`, reversed. -/
def Shift.rest (s : Shift) (b : UInt8) : List Char :=
  if !s.hasDigits then ['+']
  else if s.half.isSome && b < 0x80 && b ≠ 0x2B then [loneHalf]
  else []

/-- Reads UTF-7 from bytes that start at offset `pos`, within the section `opened` if any; `done` is what
was read, reversed. -/
def utf7Chars (pos : Nat) (opened : Option Shift) (done : List Char) :
    List UInt8 → Except DecodeFault (List Char)
  | [] =>
    match opened with
    | none => .ok done.reverse
    | some s =>
      if s.half.isSome || 6 ≤ s.bits || s.value ≠ 0 then
        .error ⟨.utf7, 0x2B, s.start, pos, .unterminatedSection⟩
      else .ok done.reverse
  | b :: rest =>
    match opened, Base64.digit? b with
    | some s, some digit =>
      let (s, chars) := s.push digit
      utf7Chars (pos + 1) (some s) (chars ++ done) rest
    | _, _ =>
      match opened.bind fun s => (s.fault? b).map fun reason => (s.start, reason) with
      | some (start, reason) => .error ⟨.utf7, 0x2B, start, pos + 1, reason⟩
      | none =>
        let done := ((opened.map fun s => s.rest b).getD []) ++ done
        if opened.isSome && b = 0x2D then utf7Chars (pos + 1) none done rest
        else if b = 0x2B then utf7Chars (pos + 1) (some ⟨pos, false, 0, 0, none⟩) done rest
        else if b < 0x80 then utf7Chars (pos + 1) none (Char.ofNat b.toNat :: done) rest
        else .error ⟨.utf7, b, pos, pos + 1, .unshifted⟩

end Pruning.Text
