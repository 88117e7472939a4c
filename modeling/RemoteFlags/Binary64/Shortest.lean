import RemoteFlags.Binary64.Basic

/-!
# The fewest digits that identify a number

A finite number other than zero stands for the interval of reals that round to it.  Of the decimals
with the fewest digits in that interval, `shortest` takes the one nearest to the number.

## Main definitions

* `Decimal`: a natural number times a power of ten.
* `FiniteDouble.readsBack`: a decimal lies in the interval of a number.
* `FiniteDouble.shortest`: the fewest digits, and of these the nearest.
-/

namespace RemoteFlags

/-- The decimal `digits · 10^exponent`. -/
structure Decimal where
  /-- The digits, as a natural number. -/
  digits : Nat
  /-- The power of ten of the last digit. -/
  exponent : Int
deriving DecidableEq, Repr

/-- What becomes of a number half way between two decimals of the same length. -/
inductive HalfWay where
  /-- The decimal with the even last digit is taken. -/
  | toEven
  /-- The greater decimal is taken. -/
  | up
deriving DecidableEq, Repr

namespace FiniteDouble

/-- The factor of `d · 10^g` when it is compared with multiples of `2^(q-2)`. -/
def decimalFactor (x : FiniteDouble) (g : Int) : Nat := 10 ^ g.toNat * 2 ^ (2 - x.q).toNat

/-- The factor of multiples of `2^(q-2)` when they are compared with `d · 10^g`. -/
def binaryFactor (x : FiniteDouble) (g : Int) : Nat := 2 ^ (x.q - 2).toNat * 10 ^ (-g).toNat

/-- The lower end of the interval, in quarters of the last place.  Below a power of two the next
number is only half as far away. -/
def lowerEnd (x : FiniteDouble) : Nat :=
  if x.m = 2 ^ 52 ∧ minExponent < x.q then 4 * x.m - 1 else 4 * x.m - 2

/-- The upper end of the interval, in quarters of the last place. -/
def upperEnd (x : FiniteDouble) : Nat := 4 * x.m + 2

/-- Whether a decimal lies in the interval of reals that round to the number; its ends belong to it
when the significand is even. -/
def readsBack (x : FiniteDouble) (d : Decimal) : Bool :=
  let value := d.digits * x.decimalFactor d.exponent
  let low := x.lowerEnd * x.binaryFactor d.exponent
  let high := x.upperEnd * x.binaryFactor d.exponent
  (low < value && value < high) || (x.m % 2 == 0 && (value == low || value == high))

/-- The least `k` for which the number is below `10^k`, near an estimate from the binary
logarithm. -/
def decimalScale (x : FiniteDouble) : Int :=
  let estimate := Int.fdiv (((x.m.log2 : Int) + x.q) * 30103) 100000 - 1
  let below (k : Int) : Bool := 4 * x.m * x.binaryFactor k < x.decimalFactor k
  let candidates := (List.range 5).map fun (i : Nat) => estimate + i
  (candidates.find? below).getD (estimate + 5)

/-- The nearest decimal on the grid of the multiples of `10^g` that reads back, if one of the two
neighbours of the number does. -/
def onGrid? (x : FiniteDouble) (tie : HalfWay) (g : Int) : Option Decimal :=
  let low := 4 * x.m * x.binaryFactor g / x.decimalFactor g
  let twice := 8 * x.m * x.binaryFactor g
  let middle := (2 * low + 1) * x.decimalFactor g
  match x.readsBack ⟨low, g⟩, x.readsBack ⟨low + 1, g⟩ with
  | false, false => none
  | true, false => some ⟨low, g⟩
  | false, true => some ⟨low + 1, g⟩
  | true, true =>
    if twice < middle then some ⟨low, g⟩
    else if middle < twice then some ⟨low + 1, g⟩
    else if tie = .toEven ∧ low % 2 = 0 then some ⟨low, g⟩
    else some ⟨low + 1, g⟩

/-- The decimal without trailing zeros; `fuel` bounds their number. -/
def stripZeros : Nat → Decimal → Decimal
  | 0, d => d
  | fuel + 1, d =>
    if d.digits ≠ 0 ∧ d.digits % 10 = 0 then stripZeros fuel ⟨d.digits / 10, d.exponent + 1⟩ else d

/-- The exact decimal value. -/
def exactDecimal (x : FiniteDouble) : Decimal :=
  ⟨x.m * 2 ^ x.q.toNat * 5 ^ (-x.q).toNat, -(-x.q).toNat⟩

/-- The decimal with the fewest digits that reads back, and of these the nearest.  Seventeen digits
suffice. -/
def shortest (x : FiniteDouble) (tie : HalfWay) : Decimal :=
  let k := x.decimalScale
  let grids := (List.range 17).map fun (n : Nat) => k - 1 - n
  stripZeros 20 ((grids.findSome? (x.onGrid? tie)).getD x.exactDecimal)

end FiniteDouble

end RemoteFlags
