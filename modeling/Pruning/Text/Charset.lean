import Pruning.Text.Encoding

/-!
The names of encodings. Case does not matter in a name, and all that stands between its letters, digits
and dots is one underscore. Most encodings have several names.
-/

namespace Pruning.Text

/-- Why a name is not that of an encoding of texts. -/
inductive CharsetFault where
  | unknown (name : String)
  /-- The name is that of a conversion between bytes. -/
  | notTexts (name : String)
  /-- The name has a character that no name can have. -/
  | nullInName
  deriving DecidableEq, Repr

/-- The message of a fault. -/
def CharsetFault.message : CharsetFault → String
  | .unknown name => "unknown encoding: " ++ name
  | .notTexts name =>
    s!"'{name}' is not a text encoding; use codecs.open() to handle arbitrary codecs"
  | .nullInName => "embedded null character"

namespace Charset

/-- Puts the letters, digits and dots of a name, in lower case, after the name read so far, which is
reversed; `gap` tells whether something else stands between. -/
def simplifyOnto (done : List Char) (gap : Bool) : List Char → List Char
  | [] => done.reverse
  | c :: rest =>
    if c.isAlphanum || c = '.' then
      let done := if gap && !done.isEmpty then '_' :: done else done
      simplifyOnto (c.toLower :: done) false rest
    else simplifyOnto done true rest

/-- The form of a name in which names are compared. -/
def simplify (name : String) : String :=
  String.ofList (simplifyOnto [] false name.toList)

/-- Whether a simplified name is one of `names`, which are divided by blanks. Its dots may stand for
underscores, but not in the first of them. -/
def isAmong (name names : String) : Bool :=
  match names.splitOn " " with
  | first :: others =>
    name = first || others.contains name ||
      others.contains (name.map fun c => if c = '.' then '_' else c)
  | [] => false

/-- The names of the encodings that are no pages. -/
def known : List (String × Encoding) := [
  ("utf_8 cp65001 u8 utf utf8 utf8_ucs2 utf8_ucs4", .utf8),
  ("utf_8_sig", .markedUtf8),
  ("utf_7 u7 unicode_1_1_utf_7 utf7", .utf7),
  ("utf_16 u16 utf16", .utf16 none),
  ("utf_16_le unicodelittleunmarked utf_16le", .utf16 (some .little)),
  ("utf_16_be unicodebigunmarked utf_16be", .utf16 (some .big)),
  ("utf_32 u32 utf32", .utf32 none),
  ("utf_32_le utf_32le", .utf32 (some .little)),
  ("utf_32_be utf_32be", .utf32 (some .big)),
  ("ascii 646 ansi_x3.4_1968 ansi_x3.4_1986 ansi_x3_4_1968 cp367 csascii ibm367 iso646_us " ++
    "iso_646.irv_1991 iso_ir_6 us us_ascii", .ascii),
  ("latin_1 8859 cp819 csisolatin1 ibm819 iso8859 iso8859_1 iso_8859_1 iso_8859_1_1987 " ++
    "iso_ir_100 l1 latin latin1", .latin1),
  ("charmap", .latin1),
  ("undefined", .void)]

/-- The names of conversions between bytes. -/
def conversions : List String := [
  "base64_codec base64 base_64",
  "bz2_codec bz2",
  "hex_codec hex",
  "quopri_codec quopri quoted_printable quotedprintable",
  "rot_13 rot13",
  "uu_codec uu",
  "zlib_codec zip zlib"]

/-- How much of a name is shown when it is that of a conversion. -/
def shownLength : Nat := 400

/-- The encoding of the name of the place where the program runs. -/
def localName : String := "locale"

end Charset

/-- The encoding of a name. -/
def Encoding.named (name : String) : Except CharsetFault Encoding :=
  let simple := Charset.simplify name
  if name.toList.contains '\x00' then .error .nullInName
  else if name = Charset.localName then .ok .utf8
  else
    match Charset.known.find? fun entry => Charset.isAmong simple entry.1 with
    | some (_, encoding) => .ok encoding
    | none =>
      match CodePage.known.find? fun entry => Charset.isAmong simple entry.1 with
      | some (_, rows) => .ok (.page (.ofRows rows))
      | none =>
        if Charset.conversions.any (Charset.isAmong simple) then
          .error (.notTexts (String.ofList (name.toList.take Charset.shownLength)))
        else .error (.unknown name)

end Pruning.Text
