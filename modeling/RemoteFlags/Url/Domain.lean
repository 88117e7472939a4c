import RemoteFlags.Text.Blank
import RemoteFlags.Text.Parts
import RemoteFlags.Url.Punycode

/-!
# Domain names

A domain name has labels between full stops and is written in ASCII.  Capital letters become small
ones, wide and raised forms become the characters that they are forms of, and characters that are
not seen are left out.  A label that then holds other characters than those of ASCII is written in
Punycode, behind a mark.  A label that has the mark from the start has to tell such a label.

What becomes of a character is told here for ASCII, for the letters of the Latin, Greek, Cyrillic,
Armenian and Georgian scripts, and for the syllables and characters of Chinese, Japanese and Korean.
Names with any other character are refused.  So letters that are written from right to left,
combining marks, ligatures and most signs are left out, and with them the rules on the order in which
they may stand; what holds of them fills a table of all of Unicode.

## Main definitions

* `Domain.mapChar?`: what becomes of a character.
* `Domain.label?`: a label in ASCII.
* `Domain.name?`: a name in ASCII.
-/

namespace RemoteFlags.Domain

open Text (inRanges)

/-! ### Characters -/

/-- The ranges of characters that stay as they are. -/
def keptRanges : List (Nat × Nat) :=
  [(0xB7, 0xB7), (0xDF, 0xF6), (0xF8, 0xFF), (0x131, 0x131), (0x138, 0x138), (0x390, 0x390),
   (0x3AC, 0x3CE), (0x430, 0x45F), (0x4CF, 0x4CF), (0x561, 0x586), (0x10D0, 0x10FA),
   (0x1E96, 0x1E99), (0x3005, 0x3007), (0x3041, 0x3096), (0x309D, 0x309E), (0x30A1, 0x30FE),
   (0x3105, 0x312F), (0x3400, 0x4DBF), (0x4E00, 0x9FFF), (0xAC00, 0xD7A3)]

/-- The ranges of characters that become others in the same order, with the first one of these. -/
def movedRanges : List (Nat × Nat × Nat) :=
  [(0xAA, 0xAA, 0x61), (0xB2, 0xB3, 0x32), (0xB5, 0xB5, 0x3BC), (0xB9, 0xB9, 0x31),
   (0xBA, 0xBA, 0x6F), (0xC0, 0xD6, 0xE0), (0xD8, 0xDE, 0xF8), (0x178, 0x178, 0xFF),
   (0x17F, 0x17F, 0x73), (0x386, 0x386, 0x3AC), (0x388, 0x38A, 0x3AD), (0x38C, 0x38C, 0x3CC),
   (0x38E, 0x38F, 0x3CD), (0x391, 0x3A1, 0x3B1), (0x3A3, 0x3AB, 0x3C3), (0x400, 0x40F, 0x450),
   (0x410, 0x42F, 0x430), (0x4C0, 0x4C0, 0x4CF), (0x531, 0x556, 0x561), (0x1E9E, 0x1E9E, 0xDF),
   (0x3002, 0x3002, 0x2E), (0xFF01, 0xFF20, 0x21), (0xFF21, 0xFF3A, 0x61), (0xFF3B, 0xFF5E, 0x5B),
   (0xFF61, 0xFF61, 0x2E)]

/-- The ranges in which each capital letter has its small letter right behind it. -/
def pairedRanges : List (Nat × Nat) :=
  [(0x100, 0x12F), (0x134, 0x137), (0x139, 0x13E), (0x141, 0x148), (0x14A, 0x177), (0x179, 0x17E),
   (0x1A0, 0x1A1), (0x1AF, 0x1B0), (0x1CD, 0x1DC), (0x1F8, 0x21F), (0x460, 0x481), (0x48A, 0x4BF),
   (0x4C1, 0x4CE), (0x4D0, 0x52F), (0x1E00, 0x1E95), (0x1EA0, 0x1EFF)]

/-- The ranges of characters that are not seen. -/
def unseenRanges : List (Nat × Nat) :=
  [(0xAD, 0xAD), (0x200B, 0x200B), (0x2060, 0x2060), (0xFE00, 0xFE0F), (0xFEFF, 0xFEFF)]

/-- What becomes of a character in a name, or none if names with the character are refused. -/
def mapChar? (c : Char) : Option (List Char) :=
  let n := c.toNat
  if Punycode.isAscii c then some [c.toLower]
  else if inRanges keptRanges n then some [c]
  else if inRanges unseenRanges n then some []
  else
    match movedRanges.find? fun r => r.1 ≤ n && n ≤ r.2.1 with
    | some (first, _, image) => some [Char.ofNat (image + (n - first))]
    | none =>
      (pairedRanges.find? fun r => r.1 ≤ n && n ≤ r.2).map fun r =>
        [Char.ofNat (if (n - r.1) % 2 = 0 then n + 1 else n)]

/-! ### Labels -/

/-- The mark in front of a label in Punycode. -/
def mark : List Char := ['x', 'n', '-', '-']

/-- Whether a label may be told in Punycode: it is not in ASCII, all of its characters stay as they
are, and it has no mark itself. -/
def isTellable (label : List Char) : Bool :=
  label.any (fun c => !Punycode.isAscii c) && label.all (fun c => mapChar? c == some [c]) &&
    !mark.isPrefixOf label

/-- A label in ASCII, given what became of its characters. -/
def label? (cs : List Char) : Option (List Char) :=
  if mark.isPrefixOf cs then
    if (Punycode.decode? (cs.drop mark.length)).any isTellable then some cs else none
  else if cs.all Punycode.isAscii then some cs
  else some (mark ++ Punycode.encode cs)

/-- A domain name in ASCII. -/
def name? (cs : List Char) : Option (List Char) := do
  let mapped ← cs.mapM mapChar?
  let labels ← (Text.parts (· == '.') mapped.flatten).mapM label?
  return ['.'].intercalate labels

end RemoteFlags.Domain
