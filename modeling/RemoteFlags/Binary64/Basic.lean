/-!
# Double precision numbers

Numbers `±m · 2^q` with a significand of at most 53 bits, as exact integers.  Every operation is the
exact result rounded once, to the nearest number and to the even one of two equally near.

## Main definitions

* `FiniteDouble`: a finite number; `Double`: also the infinities and NaN.
* `Double.ofRatio`: a rational number, rounded.
* `FiniteDouble.mul`, `FiniteDouble.div`, `Double.ofInt`, `Double.ofDecimal`: exact, then rounded.
* `Double.same`: equality of numbers, under which NaN differs from itself and the two zeros agree.
-/

namespace RemoteFlags

-- Powers are the ones of core, also in modules whose imports bring the powers of monoids.
attribute [scoped instance (high + 1)] instPowNat
attribute [default_instance (high + 1)] instPowNat

/-- A finite number `m · 2^q` or its negation.  Numbers that come from `Double.ofRatio` are in the
one form with `2^52 ≤ m < 2^53`, or with `q = -1074` and a smaller `m`. -/
structure FiniteDouble where
  /-- Whether the sign is minus; zero has a sign too. -/
  negative : Bool
  /-- The significand. -/
  m : Nat
  /-- The exponent of two. -/
  q : Int
deriving DecidableEq, Repr

/-- A double precision number. -/
inductive Double where
  /-- No number. -/
  | nan
  /-- An infinity. -/
  | infinite (negative : Bool)
  /-- A finite number. -/
  | finite (x : FiniteDouble)
deriving DecidableEq, Repr

namespace FiniteDouble

/-- The least exponent. -/
def minExponent : Int := -1074

/-- The greatest exponent. -/
def maxExponent : Int := 971

/-- Zero with a sign. -/
def zero (negative : Bool) : FiniteDouble := ⟨negative, 0, minExponent⟩

/-- Whether the number is one of the two zeros. -/
def isZero (x : FiniteDouble) : Bool := x.m == 0

/-- Whether two numbers in the one form are equal as numbers; the sign of zero does not count. -/
def same (x y : FiniteDouble) : Bool := (x.isZero && y.isZero) || x == y

end FiniteDouble

/-- The natural number nearest to `num / den`, the even one of two equally near. -/
def roundDiv (num den : Nat) : Nat :=
  let quotient := num / den
  let remainder := num % den
  if 2 * remainder < den then quotient
  else if den < 2 * remainder then quotient + 1
  else if quotient % 2 = 0 then quotient
  else quotient + 1

namespace Double

/-- A number with the given significand and exponent, infinite beyond the greatest exponent. -/
def ofParts (negative : Bool) (m : Nat) (q : Int) : Double :=
  if FiniteDouble.maxExponent < q then .infinite negative else .finite ⟨negative, m, q⟩

/-- The quotient of two natural numbers, with a sign, rounded once. -/
def ofRatio (negative : Bool) (num den : Nat) : Double :=
  if num = 0 then .finite (.zero negative)
  else
    -- The quotient lies between `2^(k-1)` and `2^(k+1)`; `2^e` is the power of two at or below it.
    let k : Int := (num.log2 : Int) - den.log2
    let e := if num * 2 ^ (-k).toNat < den * 2 ^ k.toNat then k - 1 else k
    let q := max (e - 52) FiniteDouble.minExponent
    let m := roundDiv (num * 2 ^ (-q).toNat) (den * 2 ^ q.toNat)
    if m = 2 ^ 53 then ofParts negative (2 ^ 52) (q + 1) else ofParts negative m q

/-- An integer, rounded. -/
def ofInt (n : Int) : Double := ofRatio (n < 0) n.natAbs 1

/-- The decimal `digits · 10^exponent` with a sign, rounded.  Decimals far outside the range are
told by their number of digits alone. -/
def ofDecimal (negative : Bool) (digits : Nat) (exponent : Int) : Double :=
  let leading := exponent + (Nat.toDigits 10 digits).length
  if digits = 0 ∨ leading < -330 then .finite (.zero negative)
  else if 330 < leading then .infinite negative
  else ofRatio negative (digits * 10 ^ exponent.toNat) (10 ^ (-exponent).toNat)

/-- Whether two numbers are equal: NaN equals nothing, and the two zeros are equal. -/
def same : Double → Double → Bool
  | .infinite a, .infinite b => a == b
  | .finite x, .finite y => x.same y
  | _, _ => false

end Double

namespace FiniteDouble

/-- The product, rounded once. -/
def mul (x y : FiniteDouble) : Double :=
  let q := x.q + y.q
  .ofRatio (x.negative != y.negative) (x.m * y.m * 2 ^ q.toNat) (2 ^ (-q).toNat)

/-- The quotient by a number other than zero, rounded once. -/
def div (x y : FiniteDouble) : Double :=
  let q := x.q - y.q
  .ofRatio (x.negative != y.negative) (x.m * 2 ^ q.toNat) (y.m * 2 ^ (-q).toNat)

end FiniteDouble

end RemoteFlags
