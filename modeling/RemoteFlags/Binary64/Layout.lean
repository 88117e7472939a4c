import RemoteFlags.Binary64.Shortest

/-!
# Numbers as texts

Two ways to lay out the fewest digits that identify a number.

## Main definitions

* `Double.plainText`: positional for every size, whole numbers without a point.
* `FiniteDouble.jsonText`: positional from `10^-5` up to below `10^16`, otherwise with an exponent.
-/

namespace RemoteFlags

namespace Decimal

/-- The digits as characters. -/
def chars (d : Decimal) : List Char := Nat.toDigits 10 d.digits

/-- The power of ten of the first digit. -/
def leadingExponent (d : Decimal) : Int := d.exponent + (d.chars.length : Int) - 1

/-- Positional notation; `whole` is what follows the digits of a whole number. -/
def positional (d : Decimal) (whole : List Char) : List Char :=
  let cs := d.chars
  let e := d.leadingExponent
  if 0 ≤ d.exponent then cs ++ List.replicate d.exponent.toNat '0' ++ whole
  else if 0 ≤ e then cs.take (e.toNat + 1) ++ '.' :: cs.drop (e.toNat + 1)
  else ['0', '.'] ++ List.replicate ((-e).toNat - 1) '0' ++ cs

/-- One digit, the other digits after a point if there are any, and a signed power of ten. -/
def scientific (d : Decimal) : List Char :=
  let e := d.leadingExponent
  let fraction := match d.chars.drop 1 with
    | [] => []
    | cs => '.' :: cs
  let sign := if e < 0 then '-' else '+'
  d.chars.take 1 ++ fraction ++ ['e', sign] ++ Nat.toDigits 10 e.natAbs

end Decimal

namespace FiniteDouble

/-- The sign of the number as written: nothing for plus. -/
def signChars (x : FiniteDouble) : List Char := if x.negative then ['-'] else []

/-- Positional notation with the fewest digits; whole numbers have no point, and a number half way
between two decimals takes the greater one. -/
def plainText (x : FiniteDouble) : String :=
  String.ofList <| x.signChars ++
    if x.isZero then ['0'] else (x.shortest .up).positional []

/-- The form of JSON texts: the fewest digits, positional while the first digit stands for `10^-5`
to `10^15`, otherwise with a signed exponent; whole numbers in positional form end in `.0`. -/
def jsonText (x : FiniteDouble) : String :=
  String.ofList <| x.signChars ++
    if x.isZero then ['0', '.', '0']
    else
      let d := x.shortest .toEven
      if -5 ≤ d.leadingExponent ∧ d.leadingExponent < 16 then d.positional ['.', '0']
      else d.scientific

end FiniteDouble

/-- Positional notation with the fewest digits, and the names of what is no finite number. -/
def Double.plainText : Double → String
  | .nan => "NaN"
  | .infinite negative => if negative then "-inf" else "inf"
  | .finite x => x.plainText

end RemoteFlags
