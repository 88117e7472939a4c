import RemoteFlags.Json.Number

/-!
# Which numerals stand for integers

A number keeps its exact value as an integer of 64 bits when it is written without point and exponent
and lies in range.  Every other number is a double, even if its value is an integer; and so is `-0`.

## Main definitions

* `Number.int64?`, `Number.double?` — a number as an integer of 64 bits, and as a double.
* `Numeral.wholeValue` — the number that sign and digits before the point stand for.

## Main results

* `Numeral.int64?_toNumber?` — **which numerals are read as integers of 64 bits.**
-/

namespace RemoteFlags.Json

/-! ### Collecting digits -/

namespace Numeral

/-- The number that some digits continue. -/
def continued (s : Nat) (ds : List Nat) : Nat := ds.foldl (fun n d => 10 * n + d) s

theorem le_continued (s : Nat) (ds : List Nat) : s ≤ continued s ds := by
  induction ds generalizing s with
  | nil => exact Nat.le_refl s
  | cons d ds ih => exact Nat.le_trans (by omega) (ih (10 * s + d))

/-- Digits are collected completely as long as the number stays below the bound. -/
theorem collect_of_lt {s : Nat} {ds : List Nat} (h : continued s ds < significandBound) :
    collect s ds = (continued s ds, ds.length, 0) := by
  induction ds generalizing s with
  | nil => rfl
  | cons d ds ih =>
    have hnext : 10 * s + d < significandBound :=
      Nat.lt_of_le_of_lt (le_continued (10 * s + d) ds) h
    rw [collect, if_pos hnext, ih h]
    rfl

/-- Once the number reaches the bound, some digits are left over. -/
theorem left_ne_zero_of_le {s : Nat} {ds : List Nat} (hs : s < significandBound)
    (h : significandBound ≤ continued s ds) : (collect s ds).2.2 ≠ 0 := by
  induction ds generalizing s with
  | nil => exact absurd hs (Nat.not_lt.mpr h)
  | cons d ds ih =>
    rw [collect]
    split
    · next hnext => exact ih hnext h
    · exact Nat.succ_ne_zero ds.length

/-- The number that sign and digits before the point stand for. -/
def wholeValue (n : Numeral) : Int :=
  if n.negative then -(Text.valueOf 10 n.whole) else Text.valueOf 10 n.whole

end Numeral

/-! ### Numbers as integers and doubles -/

namespace Number

/-- The number as an integer of 64 bits, if it is one. -/
def int64? : Number → Option Int
  | .int n _ => if n < 2 ^ 63 then some n else none
  | .float _ => none

/-- The number as a double, if it has one: an integer is rounded. -/
def double? : Number → Option Double
  | .int n _ => some (.ofInt n)
  | .float x => some (.finite x)

/-- Every number has a double. -/
theorem isSome_double? (n : Number) : n.double?.isSome := by
  cases n with
  | int n fits => rfl
  | float x => rfl

theorem int64?_int {n : Int} {fits : Fits n} {i : Int} :
    (Number.int n fits).int64? = some i ↔ n = i ∧ i < 2 ^ 63 := by
  rw [int64?]
  split
  · next h => exact ⟨fun hn => Option.some.inj hn ▸ ⟨rfl, h⟩, fun hn => congrArg some hn.1⟩
  · next h => exact ⟨nofun, fun ⟨hn, hi⟩ => absurd (hn ▸ hi) h⟩

end Number

namespace Numeral

/-- Numbers that are rounded are no integers. -/
theorem float_ne_int64? (x : Option FiniteDouble) (f : FiniteDouble → FiniteDouble) (i : Int) :
    (x.map fun y => Number.float (f y)).bind Number.int64? ≠ some i := by
  cases x <;> exact nofun

/-- A number whose digits are all collected. -/
theorem toNumber?_of_lt {negative : Bool} {whole : List Nat}
    (h : continued 0 whole < significandBound) :
    toNumber? ⟨negative, whole, none, none⟩ =
      if h : negative = false ∧ Fits (continued 0 whole : Nat) then
        some (.int (continued 0 whole : Nat) h.2)
      else if h : 0 < continued 0 whole ∧ Fits (-(continued 0 whole : Nat)) then
        some (.int (-(continued 0 whole : Nat)) h.2)
      else (scaled? (continued 0 whole) 0).map
        fun x => .float { x with negative := negative } := by
  rw [toNumber?, collect_of_lt h]
  rfl

/-- A number with more digits than are collected. -/
theorem toNumber?_of_le {negative : Bool} {whole : List Nat}
    (h : significandBound ≤ continued 0 whole) (i : Int) :
    (toNumber? ⟨negative, whole, none, none⟩).bind Number.int64? ≠ some i := by
  have hleft := left_ne_zero_of_le (by decide) h
  rw [toNumber?]
  simp only [if_neg hleft]
  exact float_ne_int64? _ _ i

/-- **Which numerals are read as integers of 64 bits**: those without point and exponent that are in
range, other than zero with a minus sign. -/
theorem int64?_toNumber? (n : Numeral) (i : Int) :
    n.toNumber?.bind Number.int64? = some i ↔
      n.fraction = none ∧ n.exponent = none ∧ n.wholeValue = i ∧ -2 ^ 63 ≤ i ∧ i < 2 ^ 63 ∧
        ¬ (n.negative = true ∧ i = 0) := by
  obtain ⟨negative, whole, fraction, exponent⟩ := n
  match fraction, exponent with
  | some _, _ => exact ⟨fun h => absurd h (float_ne_int64? _ _ i), nofun⟩
  | none, some _ => exact ⟨fun h => absurd h (float_ne_int64? _ _ i), nofun⟩
  | none, none =>
    have hvalue : Text.valueOf 10 whole = continued 0 whole := rfl
    simp only [true_and, wholeValue, hvalue]
    have h64 : significandBound = 2 ^ 64 := rfl
    by_cases hbound : continued 0 whole < significandBound
    · rw [toNumber?_of_lt hbound]
      generalize continued 0 whole = v at hbound
      cases negative with
      | false =>
        have hfits : Fits (v : Nat) := ⟨by omega, by omega⟩
        rw [dif_pos ⟨rfl, hfits⟩, Option.bind_some, Number.int64?_int]
        simp only [Bool.false_eq_true, if_false, false_and, not_false_eq_true, and_true]
        omega
      | true =>
        rw [dif_neg (by simp)]
        simp only [if_true, true_and]
        split
        · rw [Option.bind_some, Number.int64?_int]
          next h => obtain ⟨hpos, hlow, -⟩ := h; omega
        · next h =>
          -- Zero with a minus sign, or a number below the range.
          have hout : ¬ (0 < v ∧ v ≤ 2 ^ 63) := fun hv => h ⟨hv.1, by omega, by omega⟩
          refine ⟨fun hfloat => absurd hfloat (float_ne_int64? _ _ i), ?_⟩
          omega
    · refine ⟨fun hfloat => absurd hfloat (toNumber?_of_le (Nat.not_lt.mp hbound) i), ?_⟩
      rintro ⟨hi, hlow, hhigh, -⟩
      cases negative with
      | false => rw [if_neg Bool.false_ne_true] at hi; omega
      | true => rw [if_pos rfl] at hi; omega

end Numeral

end RemoteFlags.Json
