import RemoteFlags.Text.Numeral
import RemoteFlags.Text.Parts

/-!
# Network addresses in URLs

Numeric hosts.  An address of four bytes may be written with one to four numbers, each decimal,
octal or hexadecimal, the last of which fills the remaining bytes.  An address of eight groups is
written in hexadecimal; `::` stands for groups of zeros, and the last two groups may be written as
four decimal bytes.

## Main definitions

* `endsInNumber cs`: the host is to be read as an address of four bytes.
* `ipv4? cs`, `ipv4Text n`: reading and writing addresses of four bytes.
* `ipv6? cs`, `ipv6Text groups`: reading and writing addresses of eight groups.
-/

namespace RemoteFlags

namespace Url

/-! ### Addresses of four bytes -/

/-- The value of an octal digit. -/
def octalDigit? (c : Char) : Option Nat :=
  (Text.digit? c).bind fun d => if d < 8 then some d else none

/-- A number in an address: hexadecimal after `0x`, octal after another `0`, else decimal.  Nothing
after `0x` is zero. -/
def addressNumber? : List Char → Option Nat
  | ['0', 'x'] => some 0
  | ['0', 'X'] => some 0
  | '0' :: 'x' :: cs => Text.numeral? 16 Text.hexDigit? cs
  | '0' :: 'X' :: cs => Text.numeral? 16 Text.hexDigit? cs
  | '0' :: c :: cs => Text.numeral? 8 octalDigit? (c :: cs)
  | cs => Text.natural? cs

/-- The labels of a host name, without the empty one after a final dot. -/
def labels (cs : List Char) : List (List Char) :=
  let parts := Text.parts (· == '.') cs
  if 1 < parts.length ∧ parts.getLast? = some [] then parts.dropLast else parts

/-- Whether the last label is a number, so that the whole host has to be an address. -/
def endsInNumber (cs : List Char) : Bool :=
  match (labels cs).getLast? with
  | some [] => false
  | some label => label.all Text.isDigit || (addressNumber? label).isSome
  | none => false

/-- The address that numbers stand for: all but the last are bytes, and the last one fills the bytes
that are left. -/
def ipv4OfNumbers? : Nat → List Nat → Option Nat
  | _, [] => none
  | width, [n] => if n < 256 ^ width then some n else none
  | width, n :: ns =>
    if n < 256 then (ipv4OfNumbers? (width - 1) ns).map (n * 256 ^ (width - 1) + ·) else none

/-- Reads an address of four bytes. -/
def ipv4? (cs : List Char) : Option Nat :=
  let parts := labels cs
  if 4 < parts.length then none else (parts.mapM addressNumber?).bind (ipv4OfNumbers? 4)

/-- Writes an address of four bytes, each in decimal. -/
def ipv4Text (n : Nat) : String :=
  ".".intercalate ([3, 2, 1, 0].map fun i => toString (n / 256 ^ i % 256))

/-! ### Addresses of eight groups -/

/-- A byte in decimal, without leading zeros. -/
def decimalByte? (cs : List Char) : Option Nat :=
  match cs with
  | '0' :: _ :: _ => none
  | cs => (Text.natural? cs).bind fun n => if n < 256 then some n else none

/-- The two groups that four decimal bytes stand for. -/
def groupsOfBytes? (cs : List Char) : Option (List Nat) :=
  match (Text.parts (· == '.') cs).mapM decimalByte? with
  | some [a, b, c, d] => some [256 * a + b, 256 * c + d]
  | _ => none

/-- A group of at most four hexadecimal digits. -/
def group? (cs : List Char) : Option Nat :=
  if cs.length ≤ 4 then Text.numeral? 16 Text.hexDigit? cs else none

/-- The groups that parts stand for; only the last part may be four decimal bytes, and only where
`final` says that it ends the address. -/
def groups? (final : Bool) : List (List Char) → Option (List Nat)
  | [] => some []
  | [part] =>
    if final ∧ part.contains '.' then groupsOfBytes? part else (group? part).map ([·])
  | part :: parts => do
    let g ← group? part
    let gs ← groups? final parts
    return g :: gs

/-- The groups on one side of `::`, which may be none. -/
def sideGroups? (final : Bool) (cs : List Char) : Option (List Nat) :=
  if cs.isEmpty then some [] else groups? final (Text.parts (· == ':') cs)

/-- The characters before and after the first `::`. -/
def splitAtGap? : List Char → Option (List Char × List Char)
  | ':' :: ':' :: cs => some ([], cs)
  | c :: cs => (splitAtGap? cs).map fun p => (c :: p.1, p.2)
  | [] => none

/-- Reads an address of eight groups. -/
def ipv6? (cs : List Char) : Option (List Nat) :=
  match splitAtGap? cs with
  | none => (sideGroups? true cs).filter (·.length == 8)
  | some (before, after) => do
    let front ← sideGroups? false before
    let back ← sideGroups? true after
    let missing := 8 - (front.length + back.length)
    if missing = 0 then none
    else return front ++ List.replicate missing 0 ++ back

/-- The length of the run of zeros at the start of a list. -/
def zeroRun (gs : List Nat) : Nat := (gs.takeWhile (· == 0)).length

/-- The place and length of the first longest run of zeros, when it is longer than `best`. -/
def longestZeroRun (best : Nat × Nat) : Nat → List Nat → Nat × Nat
  | _, [] => best
  | place, g :: gs =>
    let run := zeroRun (g :: gs)
    longestZeroRun (if best.2 < run then (place, run) else best) (place + 1) gs

/-- Groups in hexadecimal with colons between them. -/
def groupsText (gs : List Nat) : String := ":".intercalate (gs.map Text.hexadecimal)

/-- Writes an address of eight groups.  The first longest run of two or more zeros is left out. -/
def ipv6Text (gs : List Nat) : String :=
  let (place, length) := longestZeroRun (0, 1) 0 gs
  if length ≤ 1 then groupsText gs
  else groupsText (gs.take place) ++ "::" ++ groupsText (gs.drop (place + length))

end Url

end RemoteFlags
