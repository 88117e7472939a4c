import RemoteFlags.Text.Numeral
import RemoteFlags.Text.Utf8

/-!
# Percent encoding

A URL is written with a part of the ASCII characters.  Every other character is written as the bytes
of its UTF-8 form, each one as a percent sign and two hexadecimal digits; which ASCII characters are
written in this way depends on the part of the URL.

## Main definitions

* `percentEncode set cs`: the characters `cs` with those in `set` encoded.
* `percentDecode bs`: the bytes that an encoded text stands for.
* `inFragment`, `inQuery`, `inPath`, `inUserInfo`, `inSegment`, ...: the sets.
-/

namespace RemoteFlags

namespace Url

/-! ### The sets of encoded characters -/

/-- Controls, and characters outside ASCII. -/
def isControl (c : Char) : Bool := c.toNat < 0x20 || 0x7F ≤ c.toNat

/-- Characters that are encoded in a fragment. -/
def inFragment (c : Char) : Bool := isControl c || [' ', '"', '<', '>', '`'].contains c

/-- Characters that are encoded in a query. -/
def inQuery (c : Char) : Bool := isControl c || [' ', '"', '#', '<', '>'].contains c

/-- Characters that are encoded in the query of a special URL. -/
def inSpecialQuery (c : Char) : Bool := inQuery c || c == '\''

/-- Characters that are encoded in a path. -/
def inPath (c : Char) : Bool := inQuery c || ['?', '`', '\x7b', '\x7d'].contains c

/-- Characters that are encoded in a user name or password. -/
def inUserInfo (c : Char) : Bool :=
  inPath c || ['/', ':', ';', '=', '@', '[', '\\', ']', '^', '|'].contains c

/-- Characters that are encoded in a text that is to be one segment of a path. -/
def inSegment (c : Char) : Bool := inPath c || c == '/' || c == '%'

/-- Characters that are encoded in a text that is to be one segment of the path of a special URL. -/
def inSpecialSegment (c : Char) : Bool := inSegment c || c == '\\'

/-! ### Encoding and decoding -/

/-- A byte as a percent sign and two hexadecimal digits. -/
def percentByte (b : UInt8) : List Char :=
  ['%', Text.upperHexChar (b.toNat / 16), Text.upperHexChar (b.toNat % 16)]

/-- A character as it is written where the characters of `set` are encoded. -/
def percentChar (set : Char → Bool) (c : Char) : List Char :=
  if set c then (Text.utf8Chars [c]).flatMap percentByte else [c]

/-- Encodes the characters of `set`. -/
def percentEncode (set : Char → Bool) (cs : List Char) : List Char := cs.flatMap (percentChar set)

/-- The value of a byte that is a hexadecimal digit. -/
def hexByte? (b : UInt8) : Option Nat := Text.hexDigit? (Char.ofNat b.toNat)

/-- Decodes every percent sign that two hexadecimal digits follow; other bytes stay. -/
def percentDecode : List UInt8 → List UInt8
  | [] => []
  | [a] => [a]
  | [a, b] => [a, b]
  | a :: b :: c :: bs =>
    match hexByte? b, hexByte? c with
    | some m, some n =>
      if a = 0x25 then UInt8.ofNat (16 * m + n) :: percentDecode bs
      else a :: percentDecode (b :: c :: bs)
    | _, _ => a :: percentDecode (b :: c :: bs)

/-- The bytes that an encoded text stands for. -/
def decodeText (s : String) : List UInt8 := percentDecode (Text.utf8 s)

end Url

end RemoteFlags
