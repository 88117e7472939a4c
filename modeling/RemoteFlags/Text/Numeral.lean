/-!
# Numerals

Reading natural numbers and integers written with the ASCII digits, and writing numbers in other
bases or with a least width.

## Main definitions

* `natural? cs`: the number written by a non-empty list of decimal digits.
* `signedNatural? s`: as `natural?`, with an optional plus sign in front.
* `integer? s`: an optional sign and decimal digits.
* `hexadecimal n`, `padded width n`: writing.
-/

namespace RemoteFlags.Text

/-- The value of a decimal digit. -/
def digit? (c : Char) : Option Nat :=
  if '0' ≤ c ∧ c ≤ '9' then some (c.toNat - 48) else none

/-- Whether a character is one of the ten ASCII digits. -/
def isDigit (c : Char) : Bool := (digit? c).isSome

/-- The value of a hexadecimal digit, in either case. -/
def hexDigit? (c : Char) : Option Nat :=
  if '0' ≤ c ∧ c ≤ '9' then some (c.toNat - 48)
  else if 'a' ≤ c ∧ c ≤ 'f' then some (c.toNat - 87)
  else if 'A' ≤ c ∧ c ≤ 'F' then some (c.toNat - 55)
  else none

/-- The number that digits write in a base, from the most significant one on. -/
def valueOf (base : Nat) (digits : List Nat) : Nat :=
  digits.foldl (fun n d => base * n + d) 0

/-- The number written by a non-empty list of digits, each read by `digit`. -/
def numeral? (base : Nat) (digit : Char → Option Nat) : List Char → Option Nat
  | [] => none
  | cs => (cs.mapM digit).map (valueOf base)

/-- The number written by one or more decimal digits, leading zeros allowed. -/
def natural? (cs : List Char) : Option Nat := numeral? 10 digit? cs

/-- One or more decimal digits, with an optional plus sign in front. -/
def signedNatural? (s : String) : Option Nat :=
  match s.toList with
  | '+' :: cs => natural? cs
  | cs => natural? cs

/-- One or more decimal digits, with an optional sign in front. -/
def integer? (s : String) : Option Int :=
  match s.toList with
  | '-' :: cs => (natural? cs).map fun n => -(n : Int)
  | '+' :: cs => (natural? cs).map fun n => (n : Int)
  | cs => (natural? cs).map fun n => (n : Int)

/-- Decimal digits, with zeros in front up to the given width. -/
def padded (width n : Nat) : String :=
  let digits := Nat.toDigits 10 n
  String.ofList (List.replicate (width - digits.length) '0' ++ digits)

/-- The digit of a number below sixteen, in lower case. -/
def hexChar (n : Nat) : Char :=
  if n < 10 then Char.ofNat (48 + n) else Char.ofNat (87 + n)

/-- The digit of a number below sixteen, in upper case. -/
def upperHexChar (n : Nat) : Char :=
  if n < 10 then Char.ofNat (48 + n) else Char.ofNat (55 + n)

/-- Hexadecimal digits in lower case, without leading zeros. -/
def hexadecimal (n : Nat) : String := String.ofList (Nat.toDigits 16 n)

end RemoteFlags.Text
