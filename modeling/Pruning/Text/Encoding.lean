import Pruning.Text.Encoding.Shifted
import Pruning.Text.Encoding.Utf8

/-!
Texts from bytes. `decode` accepts exactly the well-formed texts of an encoding; for the others it
names the first fault: which bytes it spans and what is wrong with them.
-/

namespace Pruning.Text

/-- The first byte outside ASCII, in bytes that start at offset `pos`. -/
def asciiFault (pos : Nat) : List UInt8 → Option DecodeFault
  | [] => none
  | b :: rest =>
    if b < 0x80 then asciiFault (pos + 1) rest else some ⟨.ascii, b, pos, pos + 1, .notAscii⟩

/-- Reads bytes that are one character each. -/
def singleBytes (bytes : ByteArray) : String :=
  String.ofList (bytes.toList.map fun b => Char.ofNat b.toNat)

/-- Reads the characters of a page from bytes that start at offset `pos`. -/
def pageChars (page : CodePage) (pos : Nat) : List UInt8 → Except DecodeFault (List Char)
  | [] => .ok []
  | b :: rest =>
    match page.char? b with
    | some c => (pageChars page (pos + 1) rest).map (c :: ·)
    | none => .error ⟨.page page, b, pos, pos + 1, .vacant⟩

/-- The text that `bytes` stand for. -/
def decode (encoding : Encoding) (bytes : ByteArray) : Except DecodeFault String :=
  match encoding with
  | .utf8 => utf8Text bytes
  | .markedUtf8 => utf8Text (unmarkedUtf8 bytes)
  | .utf7 => (utf7Chars 0 none [] bytes.toList).map String.ofList
  | .utf16 (some order) => (utf16Chars order 0 [] bytes.toList).map String.ofList
  | .utf16 none =>
    (markedChars encoding 2 (fun order pos => utf16Chars order pos []) bytes.toList).map String.ofList
  | .utf32 (some order) => (utf32Chars order 0 [] bytes.toList).map String.ofList
  | .utf32 none =>
    (markedChars encoding 4 (fun order pos => utf32Chars order pos []) bytes.toList).map String.ofList
  | .ascii =>
    match asciiFault 0 bytes.toList with
    | some fault => .error fault
    | none => .ok (singleBytes bytes)
  | .latin1 => .ok (singleBytes bytes)
  | .page page => (pageChars page 0 bytes.toList).map String.ofList
  | .void => .error ⟨.void, 0, 0, 0, .noTexts⟩

end Pruning.Text
