import RemoteFlags.Binary64.Layout
import RemoteFlags.Text.Numeral

/-!
# JSON numbers

A number written without point and exponent is an integer if it lies between `-2^63` and `2^64 - 1`;
every other number is a finite double precision number, and `-0` is one too.

## Main definitions

* `Number`: an integer in range, or a finite double.
* `Numeral`: the parts of a number as written.
* `Numeral.toNumber?`: the number that the parts stand for, unless it is too large.
-/

namespace RemoteFlags.Json

/-- The integers that keep their exact value. -/
def Fits (n : Int) : Prop := -2 ^ 63 ≤ n ∧ n < 2 ^ 64

instance (n : Int) : Decidable (Fits n) := inferInstanceAs (Decidable (_ ∧ _))

/-- A JSON number. -/
inductive Number where
  /-- An integer in range. -/
  | int (n : Int) (fits : Fits n)
  /-- A finite double precision number. -/
  | float (x : FiniteDouble)
deriving DecidableEq

namespace Number

/-- Whether two numbers are of one kind and equal; an integer never equals a double. -/
def same : Number → Number → Bool
  | .int m _, .int n _ => m == n
  | .float x, .float y => x.same y
  | _, _ => false

/-- The number as written: an integer in decimal, a double in the form of `FiniteDouble.jsonText`.
-/
def chars : Number → List Char
  | .int n _ => (toString n).toList
  | .float x => x.jsonText.toList

end Number

/-- The parts of a number as written. -/
structure Numeral where
  /-- Whether there is a minus sign. -/
  negative : Bool
  /-- The digits before the point. -/
  whole : List Nat
  /-- The digits after the point, if there is one. -/
  fraction : Option (List Nat)
  /-- The exponent, if there is one. -/
  exponent : Option Int
deriving DecidableEq, Repr

namespace Numeral

/-- The least number beyond the significands that are collected. -/
def significandBound : Nat := 2 ^ 64

/-- Collects digits while the significand stays below the bound.  The result is the significand,
the number of digits taken, and the number of digits left over once one did not fit. -/
def collect (significand : Nat) : List Nat → Nat × Nat × Nat
  | [] => (significand, 0, 0)
  | d :: ds =>
    if 10 * significand + d < significandBound then
      let (s, taken, left) := collect (10 * significand + d) ds
      (s, taken + 1, left)
    else (significand, 0, ds.length + 1)

/-- The power of ten `10^n` for `n` up to 308, rounded. -/
def powerOfTen (n : Nat) : FiniteDouble :=
  match Double.ofRatio false (10 ^ n) 1 with
  | .finite x => x
  | _ => .zero false

/-- A significand times a power of ten.  One multiplication or division by a power of ten up to
`10^308` is rounded; smaller powers take a division by `10^308` first.  There is no result for
numbers that are too large. -/
def scaled? (significand : Nat) (exponent : Int) : Option FiniteDouble :=
  let finite? : Double → Option FiniteDouble
    | .finite x => some x
    | _ => none
  match Double.ofRatio false significand 1 with
  | .finite f =>
    if f.isZero then some f
    else if 308 < exponent then none
    else if 0 ≤ exponent then finite? (f.mul (powerOfTen exponent.toNat))
    else if -308 ≤ exponent then finite? (f.div (powerOfTen exponent.natAbs))
    else
      match f.div (powerOfTen 308) with
      | .finite g =>
        if -616 ≤ exponent then finite? (g.div (powerOfTen (exponent + 308).natAbs))
        else some (.zero false)
      | _ => none
  | _ => none

/-- The number that the parts stand for; `none` when it is too large for a finite double.

Digits before the point that do not fit the significand count as zeros, digits after the point that
do not fit are ignored. -/
def toNumber? (n : Numeral) : Option Number :=
  let (s, _, left) := collect 0 n.whole
  let signed (x : FiniteDouble) : Number := .float { x with negative := n.negative }
  match n.fraction, n.exponent with
  | none, none =>
    if left = 0 then
      if h : n.negative = false ∧ Fits s then some (.int s h.2)
      else if h : 0 < s ∧ Fits (-s) then some (.int (-s) h.2)
      else (scaled? s 0).map signed
    else (scaled? s left).map signed
  | fraction, exponent =>
    let (s, taken, _) := collect s (fraction.getD [])
    (scaled? s ((left : Int) - taken + exponent.getD 0)).map signed

end Numeral

end RemoteFlags.Json
