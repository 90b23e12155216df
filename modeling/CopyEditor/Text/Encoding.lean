import CopyEditor.Text.Quoted

/-!
The encodings of text as bytes. A codec reads and writes texts in one encoding; it fails at the
first byte or character that has no counterpart, and says where. Which codec a name leads to is left
to whoever has a table of them (`Codecs`). The table here has UTF-8, Latin-1 and ASCII, with the
names they go by, and UTF-8 with a byte order mark (`Codecs.builtIn`).
-/

set_option autoImplicit false
set_option relaxedAutoImplicit false

namespace CopyEditor

abbrev Bytes := List UInt8

inductive Encoding where
  | utf8
  | latin1
  | ascii
  deriving DecidableEq, Repr

namespace Encoding

def label : Encoding → Text
  | utf8 => "utf-8".toList
  | latin1 => "latin-1".toList
  | ascii => "ascii".toList

/-- ASCII letters, digits and full stops in lowercase; whatever separates them is one underscore. -/
def normalName (name : Text) : Text :=
  let kept := fun c : Char ↦ c.isAlphanum || c == '.'
  Text.joinWith ['_'] <| ((name.map fun c ↦ if kept c then c.toLower else ' ').splitOn ' ').filter
    fun piece ↦ !piece.isEmpty

/-- The names that lead to an encoding besides its own. -/
def aliases : Encoding → List Text
  | utf8 => ["u8", "utf", "utf8", "utf8_ucs2", "utf8_ucs4", "cp65001"].map String.toList
  | latin1 =>
    ["8859", "cp819", "csisolatin1", "ibm819", "iso8859", "iso8859_1", "iso_8859_1",
      "iso_8859_1_1987", "iso_ir_100", "l1", "latin", "latin1"].map String.toList
  | ascii =>
    ["646", "ansi_x3.4_1968", "ansi_x3.4_1986", "ansi_x3_4_1968", "cp367", "csascii", "ibm367",
      "iso646_us", "iso_646.irv_1991", "iso_ir_6", "us", "us_ascii"].map String.toList

def goesBy (encoding : Encoding) (name : Text) : Bool :=
  let name := normalName name
  name == normalName encoding.label || encoding.aliases.contains name ||
    encoding.aliases.contains (name.map fun c ↦ if c = '.' then '_' else c)

def ofName? (name : Text) : Option Encoding := [utf8, latin1, ascii].find? (·.goesBy name)

end Encoding

inductive DecodeReason where
  | invalidStart
  | invalidContinuation
  | unexpectedEnd
  | notAscii
  /-- The reason of a codec that is not built in. -/
  | other (text : Text)
  deriving DecidableEq, Repr

def DecodeReason.text : DecodeReason → Text
  | invalidStart => "invalid start byte".toList
  | invalidContinuation => "invalid continuation byte".toList
  | unexpectedEnd => "unexpected end of data".toList
  | notAscii => "ordinal not in range(128)".toList
  | other text => text

/-- The bytes that could not be read are `first`, at position `start`, and those up to `stop`;
`label` is what the codec calls itself. -/
structure DecodeFault where
  label : Text
  first : UInt8
  start : Nat
  stop : Nat
  reason : DecodeReason
  deriving DecidableEq, Repr

def DecodeFault.message (fault : DecodeFault) : Text :=
  "'".toList ++ fault.label ++ "' codec can't decode ".toList ++
    (if fault.stop = fault.start + 1 then
      "byte 0x".toList ++ hexNumeral 2 fault.first.toNat ++ " in position ".toList ++
        Text.ofNat fault.start
    else
      "bytes in position ".toList ++ Text.ofNat fault.start ++ "-".toList ++
        Text.ofNat (fault.stop - 1)) ++
    ": ".toList ++ fault.reason.text

inductive EncodeReason where
  /-- Only the first `size` characters can be written. -/
  | beyond (size : Nat)
  /-- The reason of a codec that is not built in. -/
  | other (text : Text)
  deriving DecidableEq, Repr

def EncodeReason.text : EncodeReason → Text
  | beyond size => "ordinal not in range(".toList ++ Text.ofNat size ++ ")".toList
  | other text => text

/-- The characters from `start` to `stop`, the first of them `first`, are not in the encoding. -/
structure EncodeFault where
  label : Text
  first : Char
  start : Nat
  stop : Nat
  reason : EncodeReason
  deriving DecidableEq, Repr

def EncodeFault.message (fault : EncodeFault) : Text :=
  "'".toList ++ fault.label ++ "' codec can't encode ".toList ++
    (if fault.stop = fault.start + 1 then
      "character '".toList ++ codeEscape fault.first ++ "' in position ".toList ++
        Text.ofNat fault.start
    else
      "characters in position ".toList ++ Text.ofNat fault.start ++ "-".toList ++
        Text.ofNat (fault.stop - 1)) ++
    ": ".toList ++ fault.reason.text

namespace Utf8

/-- A character of several bytes that is being read: its first byte, how many bytes were taken, how
many are left, the value so far, and the bounds of the next byte. -/
structure Partial where
  first : UInt8
  taken : Nat
  left : Nat
  value : Nat
  low : Nat
  high : Nat
  deriving DecidableEq, Repr

/-- What a byte beyond ASCII starts. The bounds of the second byte keep out overlong forms,
surrogates, and what lies beyond the last code point. -/
def start? (byte : UInt8) : Option Partial :=
  let b := byte.toNat
  if 0xc2 ≤ b && b ≤ 0xdf then some ⟨byte, 1, 1, b - 0xc0, 0x80, 0xbf⟩
  else if 0xe0 ≤ b && b ≤ 0xef then
    some ⟨byte, 1, 2, b - 0xe0, if b = 0xe0 then 0xa0 else 0x80, if b = 0xed then 0x9f else 0xbf⟩
  else if 0xf0 ≤ b && b ≤ 0xf4 then
    some ⟨byte, 1, 3, b - 0xf0, if b = 0xf0 then 0x90 else 0x80, if b = 0xf4 then 0x8f else 0xbf⟩
  else none

/-- Decodes from a position on; `decoded` holds the characters so far, the last one first. -/
def decodeFrom (position : Nat) (current : Option Partial) (decoded : Text) :
    Bytes → Except DecodeFault Text
  | [] =>
    match current with
    | none => .ok decoded.reverse
    | some p => .error ⟨Encoding.utf8.label, p.first, position - p.taken, position, .unexpectedEnd⟩
  | byte :: rest =>
    match current with
    | none =>
      if byte.toNat < 0x80 then
        decodeFrom (position + 1) none (Char.ofNat byte.toNat :: decoded) rest
      else match start? byte with
        | none => .error ⟨Encoding.utf8.label, byte, position, position + 1, .invalidStart⟩
        | some p => decodeFrom (position + 1) (some p) decoded rest
    | some p =>
      if p.low ≤ byte.toNat && byte.toNat ≤ p.high then
        let value := p.value * 64 + (byte.toNat - 0x80)
        if p.left = 1 then decodeFrom (position + 1) none (Char.ofNat value :: decoded) rest
        else
          decodeFrom (position + 1) (some ⟨p.first, p.taken + 1, p.left - 1, value, 0x80, 0xbf⟩)
            decoded rest
      else .error ⟨Encoding.utf8.label, p.first, position - p.taken, position, .invalidContinuation⟩

end Utf8

namespace Encoding

def decodeAsciiFrom (position : Nat) (decoded : Text) : Bytes → Except DecodeFault Text
  | [] => .ok decoded.reverse
  | byte :: rest =>
    if byte.toNat < 0x80 then
      decodeAsciiFrom (position + 1) (Char.ofNat byte.toNat :: decoded) rest
    else .error ⟨ascii.label, byte, position, position + 1, .notAscii⟩

def decode (bytes : Bytes) : Encoding → Except DecodeFault Text
  | utf8 => Utf8.decodeFrom 0 none [] bytes
  | latin1 => .ok (bytes.map fun byte ↦ Char.ofNat byte.toNat)
  | ascii => decodeAsciiFrom 0 [] bytes

/-- The number of characters that the encoding can write, if not all. -/
def size? : Encoding → Option Nat
  | utf8 => none
  | latin1 => some 256
  | ascii => some 128

/-- One byte a character, for the first `size` characters. -/
def encodeNarrow (encoding : Encoding) (size : Nat) (text : Text) : Except EncodeFault Bytes :=
  let fits := fun c : Char ↦ decide (c.toNat < size)
  let start := (text.takeWhile fits).length
  match text.dropWhile fits with
  | [] => .ok (text.map fun c ↦ UInt8.ofNat c.toNat)
  | first :: rest =>
    .error ⟨encoding.label, first, start, start + 1 + (rest.takeWhile fun c ↦ !fits c).length,
      .beyond size⟩

def encode (text : Text) (encoding : Encoding) : Except EncodeFault Bytes :=
  match encoding.size? with
  | none => .ok (text.flatMap String.utf8EncodeChar)
  | some size => encodeNarrow encoding size text

end Encoding

/-! ### Codecs -/

/-- Reads and writes texts in one encoding. The two need not be inverse: a codec may read bytes that
it would write in another way. Codecs that fail for another reason than a byte or character without
a counterpart are left out. -/
structure Codec where
  decode : Bytes → Except DecodeFault Text
  encode : Text → Except EncodeFault Bytes

namespace Codec

def of (encoding : Encoding) : Codec := ⟨fun bytes ↦ encoding.decode bytes, encoding.encode⟩

/-- The byte order mark in UTF-8. -/
def utf8Mark : Bytes := [0xef, 0xbb, 0xbf]

/-- UTF-8 with a byte order mark before every text, which may be missing where it is read. -/
def signedUtf8 : Codec where
  decode bytes :=
    Encoding.utf8.decode (if utf8Mark.isPrefixOf bytes then bytes.drop utf8Mark.length else bytes)
  encode text := (Encoding.utf8.encode text).map (utf8Mark ++ ·)

end Codec

/-- The codec that a name leads to; some names lead to none. -/
abbrev Codecs := Text → Option Codec

def Codecs.builtIn : Codecs := fun name ↦
  match Encoding.ofName? name with
  | some encoding => some (.of encoding)
  | none => if Encoding.normalName name = "utf_8_sig".toList then some .signedUtf8 else none

/-- The encoding that a run works in: its name, and the codec if the name leads to one. -/
structure NamedCodec where
  name : Text
  codec? : Option Codec

end CopyEditor
