import Pruning.Text.Encoding.Basic

/-!
UTF-8: texts of well-formed sequences, and the first fault of other bytes.
-/

namespace Pruning.Text

/-- A continuation byte of a UTF-8 sequence. -/
def isContinuation (b : UInt8) : Bool :=
  0x80 ≤ b && b < 0xC0

/-- Whether `second` may follow the lead byte `lead` of a sequence of three or four bytes: a
continuation byte that gives neither an overlong form, nor a surrogate, nor a value above the last
code point. -/
def isSecond (lead second : UInt8) : Bool :=
  isContinuation second &&
    (if second < 0xA0 then lead != 0xE0 else lead != 0xED) &&
    (if second < 0x90 then lead != 0xF0 else lead != 0xF4)

/-- The first fault of UTF-8 bytes that start at offset `pos`. -/
def utf8Fault (pos : Nat) : List UInt8 → Option DecodeFault
  | [] => none
  | lead :: rest =>
    let fault (stop : Nat) (reason : DecodeReason) : Option DecodeFault :=
      some ⟨.utf8, lead, pos, stop, reason⟩
    if lead < 0x80 then utf8Fault (pos + 1) rest
    else if lead < 0xC2 || 0xF4 < lead then fault (pos + 1) .invalidStart
    else if lead < 0xE0 then
      match rest with
      | [] => fault (pos + 1) .unexpectedEnd
      | b :: rest =>
        if isContinuation b then utf8Fault (pos + 2) rest else fault (pos + 1) .invalidContinuation
    else if lead < 0xF0 then
      match rest with
      | [] => fault (pos + 1) .unexpectedEnd
      | [b] => if isSecond lead b then fault (pos + 2) .unexpectedEnd
        else fault (pos + 1) .invalidContinuation
      | b :: c :: rest =>
        if !isSecond lead b then fault (pos + 1) .invalidContinuation
        else if !isContinuation c then fault (pos + 2) .invalidContinuation
        else utf8Fault (pos + 3) rest
    else
      match rest with
      | [] => fault (pos + 1) .unexpectedEnd
      | [b] => if isSecond lead b then fault (pos + 2) .unexpectedEnd
        else fault (pos + 1) .invalidContinuation
      | [b, c] =>
        if !isSecond lead b then fault (pos + 1) .invalidContinuation
        else if !isContinuation c then fault (pos + 2) .invalidContinuation
        else fault (pos + 3) .unexpectedEnd
      | b :: c :: d :: rest =>
        if !isSecond lead b then fault (pos + 1) .invalidContinuation
        else if !isContinuation c then fault (pos + 2) .invalidContinuation
        else if !isContinuation d then fault (pos + 3) .invalidContinuation
        else utf8Fault (pos + 4) rest

/-- Reads UTF-8. -/
def utf8Text (bytes : ByteArray) : Except DecodeFault String :=
  match String.fromUTF8? bytes with
  | some text => .ok text
  | none => .error ((utf8Fault 0 bytes.toList).getD ⟨.utf8, 0, 0, 1, .invalidStart⟩)

/-- The bytes of the mark at the start of a UTF-8 text. -/
def utf8Mark : List UInt8 := [0xEF, 0xBB, 0xBF]

/-- The bytes after a leading mark. A part of a mark alone is taken for one. -/
def unmarkedUtf8 (bytes : ByteArray) : ByteArray :=
  let start := (bytes.extract 0 3).toList
  if start = utf8Mark then bytes.extract 3 bytes.size
  else if start.isPrefixOf utf8Mark then .empty
  else bytes

end Pruning.Text
