/-!
# UTF-8

Texts as bytes, and bytes as texts.  Reading need not fail: every maximal part that is no beginning
of a well-formed sequence may become one replacement character.

## Main definitions

* `utf8 s`: the bytes of a text.
* `ofUtf8Lossy bs`: the text of some bytes, with U+FFFD for what is not well formed.
* `ofUtf8? bs`: the text of some bytes that are well formed.
-/

namespace RemoteFlags.Text

/-- The bytes of a list of characters. -/
def utf8Chars (cs : List Char) : List UInt8 := cs.flatMap String.utf8EncodeChar

/-- The bytes of a text. -/
def utf8 (s : String) : List UInt8 := utf8Chars s.toList

/-- The character that stands for what cannot be read. -/
def replacement : Char := Char.ofNat 0xFFFD

/-- What a sequence of bytes still needs to become a character. -/
structure Pending where
  /-- How many more bytes are needed. -/
  missing : Nat
  /-- The least value of the next byte. -/
  low : UInt8
  /-- The greatest value of the next byte. -/
  high : UInt8
  /-- The bits collected so far. -/
  bits : Nat
deriving DecidableEq, Repr

/-- What a byte means at the start of a character: the characters it gives at once, and what is
needed when it begins a longer sequence.  The second byte is restricted so that no sequence is
overlong, a surrogate or above U+10FFFF. -/
def startOfChar (b : UInt8) : List Char × Option Pending :=
  if b < 0x80 then ([Char.ofNat b.toNat], none)
  else if b < 0xC2 then ([replacement], none)
  else if b < 0xE0 then ([], some ⟨1, 0x80, 0xBF, b.toNat - 0xC0⟩)
  else if b < 0xF0 then
    ([], some ⟨2, if b = 0xE0 then 0xA0 else 0x80, if b = 0xED then 0x9F else 0xBF, b.toNat - 0xE0⟩)
  else if b < 0xF5 then
    ([], some ⟨3, if b = 0xF0 then 0x90 else 0x80, if b = 0xF4 then 0x8F else 0xBF, b.toNat - 0xF0⟩)
  else ([replacement], none)

/-- One byte after a pending sequence: it completes or continues the sequence, or it cuts the
sequence off and starts anew. -/
def stepUtf8 (p : Option Pending) (b : UInt8) : List Char × Option Pending :=
  match p with
  | none => startOfChar b
  | some p =>
    if p.low ≤ b ∧ b ≤ p.high then
      let bits := p.bits * 64 + (b.toNat - 0x80)
      if p.missing ≤ 1 then ([Char.ofNat bits], none)
      else ([], some ⟨p.missing - 1, 0x80, 0xBF, bits⟩)
    else
      let (cs, next) := startOfChar b
      (replacement :: cs, next)

/-- Reads bytes after a pending sequence. -/
def readUtf8 : Option Pending → List UInt8 → List Char
  | none, [] => []
  | some _, [] => [replacement]
  | p, b :: bs =>
    let (cs, next) := stepUtf8 p b
    cs ++ readUtf8 next bs

/-- The text that bytes write, with U+FFFD for every part that is not well formed. -/
def ofUtf8Lossy (bs : List UInt8) : String := String.ofList (readUtf8 none bs)

/-- The text that bytes write, if they are well formed: then the text gives them back. -/
def ofUtf8? (bs : List UInt8) : Option String :=
  if utf8 (ofUtf8Lossy bs) = bs then some (ofUtf8Lossy bs) else none

end RemoteFlags.Text
