import RemoteFlags.Text.Blank
import RemoteFlags.Text.SingleByte

/-!
# Character encodings

Bytes as texts.  Reading never fails: what is not well formed becomes U+FFFD.  A byte order mark
tells the encoding before anything else does, and is no part of the text.

The encodings of Chinese, Japanese and Korean that write a character with several bytes are left
out, as each of them is a table of thousands of characters.  Their names count as unknown, and bodies
in them are read as if no encoding was named.

## Main definitions

* `Charset`, `Charset.ofLabel?`: the encodings and their names.
* `Charset.decode`: the text of some bytes.
-/

namespace RemoteFlags.Text

/-- A character encoding. -/
inductive Charset where
  /-- One to four bytes for each character. -/
  | utf8
  /-- Units of two bytes, the low byte first. -/
  | utf16le
  /-- Units of two bytes, the high byte first. -/
  | utf16be
  /-- One byte for each character, with a table for the last ones. -/
  | bytes (table : String)
  /-- One byte for each character; those outside ASCII are for private use. -/
  | privateUse
  /-- An encoding that is not to be read: all that is written in it counts as one fault. -/
  | unread
deriving DecidableEq, Repr

namespace Charset

/-- The names of the encodings without a table. -/
def plainNames : List (List String × Charset) :=
  [(["unicode-1-1-utf-8", "unicode11utf8", "unicode20utf8", "utf-8", "utf8", "x-unicode20utf8"],
      .utf8),
    (["csunicode", "iso-10646-ucs-2", "ucs-2", "unicode", "unicodefeff", "utf-16", "utf-16le"],
      .utf16le),
    (["unicodefffe", "utf-16be"], .utf16be),
    (["x-user-defined"], .privateUse),
    (["csiso2022kr", "hz-gb-2312", "iso-2022-cn", "iso-2022-cn-ext", "iso-2022-kr", "replacement"],
      .unread)]

/-- Whether a character is left out at the ends of a name. -/
def isNameBlank (c : Char) : Bool := ['\t', '\n', '\x0c', '\r', ' '].contains c

/-- The encoding that a name in any case stands for. -/
def ofLabel? (label : String) : Option Charset :=
  let name := String.ofList ((trimBy isNameBlank label.toList).map Char.toLower)
  match plainNames.find? fun row => row.1.contains name with
  | some row => some row.2
  | none => (byteTables.find? fun row => row.1.contains name).map fun row => .bytes row.2

/-- The character of a byte where those outside ASCII are for private use. -/
def privateChar (b : UInt8) : Char :=
  Char.ofNat (if b < 0x80 then b.toNat else 0xF780 + (b.toNat - 0x80))

/-- The units that pairs of bytes form; a byte without partner forms none. -/
def units (unit : Nat → Nat → Nat) : List UInt8 → List (Option Nat)
  | a :: b :: bs => some (unit a.toNat b.toNat) :: units unit bs
  | [_] => [none]
  | [] => []

/-- The characters of units of two bytes.  Two surrogates form a character; one alone forms none, also
together with a byte that is left over at the end. -/
def ofUnits : List (Option Nat) → List Char
  | [] => []
  | none :: us => replacement :: ofUnits us
  | some m :: some n :: us =>
    if 0xD800 ≤ m ∧ m < 0xDC00 ∧ 0xDC00 ≤ n ∧ n < 0xE000 then
      Char.ofNat (0x10000 + (m - 0xD800) * 0x400 + (n - 0xDC00)) :: ofUnits us
    else if 0xD800 ≤ m ∧ m < 0xE000 then replacement :: ofUnits (some n :: us)
    else Char.ofNat m :: ofUnits (some n :: us)
  | some m :: us =>
    if 0xD800 ≤ m ∧ m < 0xDC00 then [replacement]
    else (if 0xDC00 ≤ m ∧ m < 0xE000 then replacement else Char.ofNat m) :: ofUnits us

/-- The characters that bytes write. -/
def read : Charset → List UInt8 → List Char
  | .utf8, bs => readUtf8 none bs
  | .utf16le, bs => ofUnits (units (fun a b => a + 256 * b) bs)
  | .utf16be, bs => ofUnits (units (fun a b => 256 * a + b) bs)
  | .bytes table, bs => bs.map (tableChar table.toList)
  | .privateUse, bs => bs.map privateChar
  | .unread, bs => if bs.isEmpty then [] else [replacement]

/-- The text that bytes write, in the encoding of the byte order mark if there is one. -/
def decode (c : Charset) (bs : List UInt8) : String :=
  String.ofList <|
    match bs with
    | 0xEF :: 0xBB :: 0xBF :: bs => Charset.utf8.read bs
    | 0xFF :: 0xFE :: bs => Charset.utf16le.read bs
    | 0xFE :: 0xFF :: bs => Charset.utf16be.read bs
    | bs => c.read bs

end Charset

end RemoteFlags.Text
