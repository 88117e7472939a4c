import RemoteFlags.Proofs.Json.Numeral
import RemoteFlags.Proofs.Json.NumeralText

/-!
# Numbers as they are written

Integers are written as their digits, and doubles as the shortest digits that identify them, in
positional notation or with a power of ten.  Either way a number is written as a numeral.

## Main definitions

* `Decimal.positionalNumeral`, `Decimal.scientificNumeral` — the two notations.
* `Number.numeral n` — the numeral that a number is written as.

## Main results

* `FiniteDouble.digits_shortest` — only zero has zero as its digits.
* `Number.chars_eq`, `Number.proper_numeral` — **numbers are written as numerals.**
* `Number.toNumber?_numeral_int` — an integer is scanned as itself.
-/

namespace RemoteFlags

/-! ### Decimals as numerals -/

open Json

namespace Decimal

/-- The numeral of positional notation; a whole number has a zero after its point. -/
def positionalNumeral (d : Decimal) (negative : Bool) : Numeral :=
  let ds := Text.decimal d.digits
  let e := d.leadingExponent
  if 0 ≤ d.exponent then ⟨negative, ds ++ List.replicate d.exponent.toNat 0, some [0], none⟩
  else if 0 ≤ e then ⟨negative, ds.take (e.toNat + 1), some (ds.drop (e.toNat + 1)), none⟩
  else ⟨negative, [0], some (List.replicate ((-e).toNat - 1) 0 ++ ds), none⟩

/-- The numeral with one digit before the point and a power of ten. -/
def scientificNumeral (d : Decimal) (negative : Bool) : Numeral :=
  let ds := Text.decimal d.digits
  ⟨negative, ds.take 1, if ds.drop 1 = [] then none else some (ds.drop 1), some d.leadingExponent⟩

variable (d : Decimal) (negative : Bool)

theorem chars_eq : d.chars = (Text.decimal d.digits).map Nat.digitChar :=
  (Text.map_digitChar_decimal d.digits).symm

theorem negative_positionalNumeral : (d.positionalNumeral negative).negative = negative := by
  unfold positionalNumeral
  dsimp only
  split
  · rfl
  · split <;> rfl

theorem positional_eq : d.positional ['.', '0'] = (d.positionalNumeral negative).unsigned := by
  have hzero : Nat.digitChar 0 = '0' := rfl
  unfold positional positionalNumeral
  simp only [chars_eq]
  split
  · simp [Numeral.unsigned, Numeral.fractionChars, Numeral.exponentChars, hzero]
  split
  · simp [Numeral.unsigned, Numeral.fractionChars, Numeral.exponentChars]
  · simp [Numeral.unsigned, Numeral.fractionChars, Numeral.exponentChars, hzero]

theorem scientific_eq : d.scientific = (d.scientificNumeral negative).unsigned := by
  unfold scientific scientificNumeral
  rw [Numeral.unsigned, Numeral.exponentChars, Text.map_digitChar_decimal]
  simp only [chars_eq, ← List.map_drop, ← List.map_take]
  cases (Text.decimal d.digits).drop 1 <;> simp [Numeral.fractionChars]

variable {d}

theorem proper_positionalNumeral (h : d.digits ≠ 0) : (d.positionalNumeral negative).Proper := by
  have hlt : ∀ c ∈ Text.decimal d.digits, c < 10 := fun c => Text.lt_ten_of_mem_decimal
  have hzeros : ∀ k, ∀ c ∈ List.replicate k 0, c < 10 := fun k c hc => by
    rw [List.eq_of_mem_replicate hc]
    decide
  have hlead : d.leadingExponent = d.exponent + (Text.decimal d.digits).length - 1 := by
    rw [leadingExponent, chars_eq, List.length_map]
  obtain ⟨c, cs, hdigits⟩ := Text.decimal_of_ne_zero h
  unfold positionalNumeral
  rw [hlead]
  rw [hdigits] at hlt ⊢
  dsimp only
  split
  · exact {
      whole_ne_nil := nofun
      whole_lt := List.forall_mem_append.mpr ⟨hlt, hzeros _⟩
      leading := nofun
      fraction_ne_nil := by rintro _ ⟨⟩; exact nofun
      fraction_lt := by rintro _ ⟨⟩; exact hzeros 1 }
  split
  · next hwhole hpoint =>
    refine {
      whole_ne_nil := nofun
      whole_lt := fun c hc => hlt c (List.mem_of_mem_take hc)
      leading := nofun
      fraction_ne_nil := ?_
      fraction_lt := by rintro _ ⟨⟩; exact fun c hc => hlt c (List.mem_of_mem_drop hc) }
    rintro _ ⟨⟩ hnil
    have hlength := congrArg List.length hnil
    rw [List.length_drop, List.length_nil] at hlength
    omega
  · exact {
      whole_ne_nil := nofun
      whole_lt := hzeros 1
      leading := by rintro _ ⟨⟩; rfl
      fraction_ne_nil := by rintro _ ⟨⟩; exact List.append_ne_nil_of_right_ne_nil _ nofun
      fraction_lt := by rintro _ ⟨⟩; exact List.forall_mem_append.mpr ⟨hzeros _, hlt⟩ }

theorem proper_scientificNumeral (h : d.digits ≠ 0) : (d.scientificNumeral negative).Proper := by
  have hlt : ∀ c ∈ Text.decimal d.digits, c < 10 := fun c => Text.lt_ten_of_mem_decimal
  obtain ⟨c, cs, hdigits⟩ := Text.decimal_of_ne_zero h
  unfold scientificNumeral
  rw [hdigits] at hlt ⊢
  dsimp only
  refine {
    whole_ne_nil := nofun
    whole_lt := fun c hc => hlt c (List.mem_of_mem_take hc)
    leading := nofun
    fraction_ne_nil := fun ds hds => ?_
    fraction_lt := fun ds hds => ?_ }
  · split at hds
    · exact nomatch hds
    · next hne => exact Option.some.inj hds ▸ hne
  · split at hds
    · exact nomatch hds
    · exact Option.some.inj hds ▸ fun c hc => hlt c (List.mem_of_mem_drop hc)

end Decimal

namespace FiniteDouble

/-! ### Doubles as numerals -/

theorem digits_stripZeros {d : Decimal} (h : d.digits ≠ 0) (fuel : Nat) :
    (stripZeros fuel d).digits ≠ 0 := by
  induction fuel generalizing d with
  | zero => exact h
  | succ fuel ih =>
    rw [stripZeros]
    split
    · next hd => exact ih (by dsimp only; omega)
    · exact h

variable {x : FiniteDouble}

theorem readsBack_zero (h : x.m ≠ 0) (g : Int) : x.readsBack ⟨0, g⟩ = false := by
  have hlow : 0 < x.lowerEnd := by
    unfold lowerEnd
    split <;> omega
  have hhigh : 0 < x.upperEnd := Nat.succ_pos _
  have hfactor : 0 < x.binaryFactor g :=
    Nat.mul_pos (Nat.pow_pos (by decide)) (Nat.pow_pos (by decide))
  have hlow' := Nat.mul_pos hlow hfactor
  have hhigh' := Nat.mul_pos hhigh hfactor
  simp only [readsBack, Nat.zero_mul, Nat.not_lt_zero, decide_false, Bool.false_and, Bool.false_or,
    Bool.and_eq_false_iff, Bool.or_eq_false_iff, beq_eq_false_iff_ne]
  exact .inr ⟨by omega, by omega⟩

/-- What is found on a grid reads back. -/
theorem readsBack_of_onGrid? {tie : HalfWay} {g : Int} {d : Decimal} (hd : x.onGrid? tie g = some d) :
    x.readsBack d = true := by
  unfold onGrid? at hd
  dsimp only at hd
  split at hd
  · exact nomatch hd
  · next hlow _ => exact Option.some.inj hd ▸ hlow
  · next _ hhigh => exact Option.some.inj hd ▸ hhigh
  · next hlow hhigh =>
    split at hd
    · exact Option.some.inj hd ▸ hlow
    split at hd
    · exact Option.some.inj hd ▸ hhigh
    split at hd
    · exact Option.some.inj hd ▸ hlow
    · exact Option.some.inj hd ▸ hhigh

theorem digits_exactDecimal (h : x.m ≠ 0) : x.exactDecimal.digits ≠ 0 :=
  Nat.ne_of_gt (Nat.mul_pos (Nat.mul_pos (Nat.pos_of_ne_zero h) (Nat.pow_pos (by decide)))
    (Nat.pow_pos (by decide)))

/-- Only zero has zero as its digits. -/
theorem digits_shortest (h : x.m ≠ 0) (tie : HalfWay) : (x.shortest tie).digits ≠ 0 := by
  refine digits_stripZeros ?_ 20
  cases hfound : List.findSome? (x.onGrid? tie)
      ((List.range 17).map fun (n : Nat) => x.decimalScale - 1 - n) with
  | none => exact digits_exactDecimal h
  | some d =>
    obtain ⟨g, -, hg⟩ := List.exists_of_findSome?_eq_some hfound
    obtain ⟨digits, exponent⟩ := d
    rintro rfl
    have hzero := readsBack_zero h exponent
    rw [readsBack_of_onGrid? hg] at hzero
    exact nomatch hzero

/-- The numeral that a finite double is written as. -/
def numeral (x : FiniteDouble) : Numeral :=
  if x.isZero then ⟨x.negative, [0], some [0], none⟩
  else
    let d := x.shortest .toEven
    if -5 ≤ d.leadingExponent ∧ d.leadingExponent < 16 then d.positionalNumeral x.negative
    else d.scientificNumeral x.negative

theorem jsonText_eq (x : FiniteDouble) : x.jsonText.toList = x.numeral.chars := by
  rw [jsonText, String.toList_ofList, numeral, Numeral.chars, signChars]
  by_cases hzero : x.isZero = true
  · rw [if_pos hzero, if_pos hzero]
    rfl
  · rw [if_neg hzero, if_neg hzero]
    dsimp only
    generalize x.shortest .toEven = d
    by_cases hrange : -5 ≤ d.leadingExponent ∧ d.leadingExponent < 16
    · rw [if_pos hrange, if_pos hrange, d.positional_eq x.negative, d.negative_positionalNumeral]
    · rw [if_neg hrange, if_neg hrange, d.scientific_eq x.negative]
      rfl

theorem proper_numeral (x : FiniteDouble) : x.numeral.Proper := by
  unfold numeral
  split
  · exact {
      whole_ne_nil := nofun
      whole_lt := (by decide : ∀ d ∈ [0], d < 10)
      leading := by rintro _ ⟨⟩; rfl
      fraction_ne_nil := by rintro _ ⟨⟩; exact nofun
      fraction_lt := by rintro _ ⟨⟩; exact (by decide : ∀ d ∈ [0], d < 10) }
  · next hzero =>
    have hdigits : (x.shortest .toEven).digits ≠ 0 := digits_shortest (by simpa [isZero] using hzero) _
    dsimp only
    split
    · exact Decimal.proper_positionalNumeral x.negative hdigits
    · exact Decimal.proper_scientificNumeral x.negative hdigits

end FiniteDouble

/-! ### Numbers as numerals -/

namespace Json.Number

/-- The numeral that a number is written as. -/
def numeral : Number → Numeral
  | .int n _ => ⟨n < 0, Text.decimal n.natAbs, none, none⟩
  | .float x => x.numeral

theorem chars_eq (n : Number) : n.chars = n.numeral.chars := by
  cases n with
  | float x => exact x.jsonText_eq
  | int n fits =>
    have hunsigned : (Number.int n fits).numeral.unsigned = Nat.toDigits 10 n.natAbs := by
      rw [← Text.map_digitChar_decimal]
      exact List.append_nil _
    rw [Numeral.chars, hunsigned]
    have hrepr : (Number.int n fits).chars = n.repr.toList := rfl
    rw [hrepr]
    cases n with
    | ofNat n =>
      have hnat : (Int.ofNat n).repr = n.repr := rfl
      rw [hnat, Nat.repr_eq_ofList_toDigits, String.toList_ofList]
      rfl
    | negSucc n =>
      have hneg : (Int.negSucc n).repr = "-" ++ (n + 1).repr := rfl
      have hsign : (Number.int (.negSucc n) fits).numeral.negative = true :=
        decide_eq_true (Int.negSucc_lt_zero n)
      rw [hneg, String.toList_append, Nat.repr_eq_ofList_toDigits, String.toList_ofList,
        String.toList_ofList, if_pos hsign]
      rfl

theorem proper_numeral (n : Number) : n.numeral.Proper := by
  cases n with
  | float x => exact x.proper_numeral
  | int n fits =>
    refine {
      whole_ne_nil := Text.decimal_ne_nil _
      whole_lt := fun c => Text.lt_ten_of_mem_decimal
      leading := fun ds hds => ?_
      fraction_ne_nil := nofun
      fraction_lt := nofun }
    have hzero : n.natAbs = 0 := Text.eq_zero_of_decimal hds
    have hdigits : Text.decimal n.natAbs = 0 :: ds := hds
    rw [hzero] at hdigits
    exact (List.cons.inj hdigits).2.symm

/-- An integer is scanned as itself. -/
theorem toNumber?_numeral_int (n : Int) (fits : Fits n) :
    (Number.int n fits).numeral.toNumber? = some (.int n fits) := by
  have hvalue : Numeral.continued 0 (Text.decimal n.natAbs) = n.natAbs := Text.valueOf_decimal _
  have hrange := fits
  obtain ⟨hlow, hhigh⟩ := hrange
  have hbound : Numeral.continued 0 (Text.decimal n.natAbs) < Numeral.significandBound := by
    rw [hvalue, Numeral.significandBound]
    omega
  have hint : ∀ {i : Int} (h : Fits i), i = n → some (Number.int i h) = some (.int n fits) := by
    rintro _ _ rfl
    rfl
  refine (Numeral.toNumber?_of_lt hbound).trans ?_
  by_cases hneg : n < 0
  · have habs : -(Numeral.continued 0 (Text.decimal n.natAbs) : Int) = n := by omega
    have hfits : Fits (-(Numeral.continued 0 (Text.decimal n.natAbs) : Int)) := by rwa [habs]
    rw [dif_neg fun h => of_decide_eq_false h.1 hneg, dif_pos ⟨by omega, hfits⟩]
    exact hint hfits habs
  · have habs : (Numeral.continued 0 (Text.decimal n.natAbs) : Int) = n := by omega
    have hfits : Fits (Numeral.continued 0 (Text.decimal n.natAbs) : Int) := by rwa [habs]
    rw [dif_pos ⟨decide_eq_false hneg, hfits⟩]
    exact hint hfits habs

end Json.Number

end RemoteFlags
