/-!
# Character sets

Bytes become text by the character set that their sender names. A mark at the start of the bytes that
tells their order overrules the name. Bytes that make no sense become replacement characters: in UTF-8
one for each longest start of a character that is broken off.
-/

namespace ChainIndex.Text

inductive Charset where
  | utf8 | utf16 (bigEndian : Bool) | windows1252
  deriving DecidableEq, Repr

namespace Charset

def western : List String :=
  ["ansi_x3.4-1968", "ascii", "cp1252", "cp819", "csisolatin1", "ibm819", "iso-8859-1", "iso-ir-100", "iso8859-1",
    "iso88591", "iso_8859-1", "iso_8859-1:1987", "l1", "latin1", "us-ascii", "windows-1252", "x-cp1252"]

/-- The character set of a name; that of most senders for a name that is not known. -/
def ofName (name : String) : Charset :=
  let name := name.trimAscii.toString.toLower
  if western.contains name then .windows1252
  else if ["utf-16", "utf-16le", "ucs-2", "unicode", "iso-10646-ucs-2", "csunicode", "unicodefeff"].contains name then
    .utf16 false
  else if ["utf-16be", "unicodefffe"].contains name then .utf16 true
  else .utf8

def replacement : Char := '\ufffd'

/-! ## UTF-8 -/

/-- How many bytes follow the first byte of a character, and between which bounds the next one is. -/
def followers (b : UInt8) : Option (Nat × UInt8 × UInt8) :=
  if 0xC2 ≤ b ∧ b ≤ 0xDF then some (1, 0x80, 0xBF)
  else if b = 0xE0 then some (2, 0xA0, 0xBF)
  else if b = 0xED then some (2, 0x80, 0x9F)
  else if 0xE1 ≤ b ∧ b ≤ 0xEF then some (2, 0x80, 0xBF)
  else if b = 0xF0 then some (3, 0x90, 0xBF)
  else if b = 0xF4 then some (3, 0x80, 0x8F)
  else if 0xF1 ≤ b ∧ b ≤ 0xF3 then some (3, 0x80, 0xBF)
  else none

/-- What is left of a character: how many bytes, its value so far, and the bounds of the next byte. -/
structure Open where
  left : Nat
  value : Nat
  least : UInt8
  most : UInt8

/-- Starts a character, or gives one. -/
def startUtf8 (out : Array Char) (b : UInt8) : Array Char × Option Open :=
  if b < 0x80 then (out.push (Char.ofNat b.toNat), none)
  else
    match followers b with
    | none => (out.push replacement, none)
    | some (n, least, most) =>
      (out, some ⟨n, if n = 1 then b.toNat % 32 else if n = 2 then b.toNat % 16 else b.toNat % 8, least, most⟩)

def stepUtf8 : Array Char × Option Open → UInt8 → Array Char × Option Open
  | (out, none), b => startUtf8 out b
  | (out, some c), b =>
    if c.least ≤ b ∧ b ≤ c.most then
      let value := c.value * 64 + b.toNat % 64
      if c.left ≤ 1 then (out.push (Char.ofNat value), none) else (out, some ⟨c.left - 1, value, 0x80, 0xBF⟩)
    else
      startUtf8 (out.push replacement) b

def decodeUtf8 (bytes : List UInt8) : List Char :=
  let (out, rest) := bytes.foldl stepUtf8 (#[], none)
  (if rest.isSome then out.push replacement else out).toList

/-! ## The others -/

def units (bigEndian : Bool) : List UInt8 → List (Option Nat)
  | a :: b :: rest =>
    some (if bigEndian then a.toNat * 256 + b.toNat else b.toNat * 256 + a.toNat) :: units bigEndian rest
  | [_] => [none]
  | [] => []

/-- Characters from units of sixteen bits. -/
def decodeUnits : List (Option Nat) → List Char
  | some high :: some low :: rest =>
    if 0xD800 ≤ high ∧ high < 0xDC00 ∧ 0xDC00 ≤ low ∧ low < 0xE000 then
      Char.ofNat (0x10000 + (high - 0xD800) * 1024 + (low - 0xDC00)) :: decodeUnits rest
    else
      (if 0xD800 ≤ high ∧ high < 0xE000 then replacement else Char.ofNat high) :: decodeUnits (some low :: rest)
  | some unit :: none :: rest =>
    if 0xD800 ≤ unit ∧ unit < 0xDC00 then replacement :: decodeUnits rest
    else (if 0xD800 ≤ unit ∧ unit < 0xE000 then replacement else Char.ofNat unit) :: decodeUnits (none :: rest)
  | [some unit] => [if 0xD800 ≤ unit ∧ unit < 0xE000 then replacement else Char.ofNat unit]
  | none :: rest => replacement :: decodeUnits rest
  | [] => []
termination_by us => us.length

/-- The characters that the western set has where Unicode has control characters. -/
def westernExtras : List Nat :=
  [0x20AC, 0x81, 0x201A, 0x0192, 0x201E, 0x2026, 0x2020, 0x2021, 0x02C6, 0x2030, 0x0160, 0x2039, 0x0152, 0x8D, 0x017D,
    0x8F, 0x90, 0x2018, 0x2019, 0x201C, 0x201D, 0x2022, 0x2013, 0x2014, 0x02DC, 0x2122, 0x0161, 0x203A, 0x0153, 0x9D,
    0x017E, 0x0178]

def westernChar (b : UInt8) : Char :=
  let n := b.toNat
  if 0x80 ≤ n ∧ n < 0xA0 then Char.ofNat (westernExtras.getD (n - 0x80) n) else Char.ofNat n

def decodeChars : Charset → List UInt8 → List Char
  | .utf8, bytes => decodeUtf8 bytes
  | .utf16 bigEndian, bytes => decodeUnits (units bigEndian bytes)
  | .windows1252, bytes => bytes.map westernChar

/-- The text of bytes in a character set. -/
def decode (c : Charset) (bytes : List UInt8) : String :=
  String.ofList <|
    match bytes with
    | 0xEF :: 0xBB :: 0xBF :: rest => decodeChars .utf8 rest
    | 0xFF :: 0xFE :: rest => decodeChars (.utf16 false) rest
    | 0xFE :: 0xFF :: rest => decodeChars (.utf16 true) rest
    | bytes => decodeChars c bytes

end Charset

end ChainIndex.Text
