import Pruning.Text.CodePage
import Pruning.Text.Quoted

/-!
Encodings of texts, and what is wrong with bytes that are no text of their encoding.
-/

namespace Pruning.Text

/-- The order of the bytes of a unit: the least or the most significant first. -/
inductive ByteOrder where
  | little
  | big
  deriving DecidableEq, Repr

/-- The encodings a file can be read in. -/
inductive Encoding where
  | utf8
  /-- UTF-8 in which a leading mark is no part of the text. -/
  | markedUtf8
  | utf7
  /-- Units of sixteen bits. When no order is given, a leading mark tells it. -/
  | utf16 (order : Option ByteOrder)
  /-- Units of thirty-two bits. When no order is given, a leading mark tells it. -/
  | utf32 (order : Option ByteOrder)
  | ascii
  | latin1
  | page (page : CodePage)
  /-- An encoding in which nothing is a text. -/
  | void
  deriving DecidableEq, Repr

/-- What is wrong with the bytes of a fault. -/
inductive DecodeReason where
  | invalidStart
  | invalidContinuation
  | unexpectedEnd
  | notAscii
  /-- A byte that has no character on its page. -/
  | vacant
  /-- A unit in which bytes are missing. -/
  | truncated
  /-- The second half of a pair of units without the first one. -/
  | strayUnit
  /-- The first half of a pair of units without the second one. -/
  | unpairedUnit
  /-- A unit that stands for half of a pair. -/
  | surrogate
  /-- A unit above the last code point. -/
  | aboveLast
  /-- A byte that has to be written in a shifted section. -/
  | unshifted
  /-- A shifted section without digits. -/
  | emptySection
  /-- A shifted section that ends within a unit. -/
  | partialUnit
  /-- A shifted section with digits after its last unit that are not zero. -/
  | nonzeroPadding
  /-- A shifted section that the text ends in. -/
  | unterminatedSection
  /-- There is no mark that tells the order of bytes. -/
  | unmarked
  /-- The encoding has no texts. -/
  | noTexts
  deriving DecidableEq, Repr

/-- The first fault of a byte sequence: the bytes from `start` to before `stop`, the first of which is
`byte`. -/
structure DecodeFault where
  encoding : Encoding
  byte : UInt8
  start : Nat
  stop : Nat
  reason : DecodeReason
  deriving DecidableEq, Repr

/-- The part of an encoding's name that tells the order of bytes. -/
def orderSuffix : Option ByteOrder → String
  | none => ""
  | some .little => "-le"
  | some .big => "-be"

/-- The name of an encoding. -/
def Encoding.name : Encoding → String
  | .utf8 => "utf-8"
  | .markedUtf8 => "utf-8-sig"
  | .utf7 => "utf7"
  | .utf16 order => "utf-16" ++ orderSuffix order
  | .utf32 order => "utf-32" ++ orderSuffix order
  | .ascii => "ascii"
  | .latin1 => "latin-1"
  | .page _ => "charmap"
  | .void => "undefined"

/-- The wording of a reason. -/
def DecodeReason.wording : DecodeReason → String
  | .invalidStart => "invalid start byte"
  | .invalidContinuation => "invalid continuation byte"
  | .unexpectedEnd => "unexpected end of data"
  | .notAscii => "ordinal not in range(128)"
  | .vacant => "character maps to <undefined>"
  | .truncated => "truncated data"
  | .strayUnit => "illegal encoding"
  | .unpairedUnit => "illegal UTF-16 surrogate"
  | .surrogate => "code point in surrogate code point range(0xd800, 0xe000)"
  | .aboveLast => "code point not in range(0x110000)"
  | .unshifted => "unexpected special character"
  | .emptySection => "ill-formed sequence"
  | .partialUnit => "partial character in shift sequence"
  | .nonzeroPadding => "non-zero padding bits in shift sequence"
  | .unterminatedSection => "unterminated shift sequence"
  | .unmarked => "stream does not start with BOM"
  | .noTexts => "undefined encoding"

/-- Whether a fault is one of certain bytes, and not of the sequence as a whole. -/
def DecodeFault.hasPlace (fault : DecodeFault) : Bool :=
  fault.reason ≠ .unmarked && fault.reason ≠ .noTexts

/-- The message of a fault: the byte, if it is a single one, where it stands, and the reason. -/
def DecodeFault.message (fault : DecodeFault) : String :=
  let bytes :=
    if fault.stop ≤ fault.start + 1 then
      s!"byte 0x{String.ofList (hexDigits fault.byte.toNat 2)} in position {fault.start}"
    else s!"bytes in position {fault.start}-{fault.stop - 1}"
  match fault.reason with
  | .unmarked => s!"{fault.encoding.name.toUpper} {fault.reason.wording}"
  | .noTexts => fault.reason.wording
  | reason => s!"'{fault.encoding.name}' codec can't decode {bytes}: {reason.wording}"

end Pruning.Text
