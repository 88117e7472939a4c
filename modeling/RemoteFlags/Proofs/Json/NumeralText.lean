import RemoteFlags.Json.Outline.Scan

/-!
# Numerals as they are written

A numeral is a sign, digits without a leading zero, perhaps a point with more digits, and perhaps a
signed power of ten.  What is written in this way is scanned as that numeral, whatever other part of
a text follows it.

## Main definitions

* `Text.decimal n` — the decimal digits of a natural number.
* `Numeral.chars n`, `Numeral.Proper n` — numerals as they are written.
* `Ends rest` — nothing that follows a value in a text could belong to a number before it.

## Main results

* `Text.valueOf_decimal`, `Text.decimal_of_ne_zero` — the digits of a number, without a leading zero.
* `Outline.readNumber_unsigned` — **a numeral is scanned as it is written.**
-/

namespace RemoteFlags

/-! ### Decimal digits -/

namespace Text

/-- The decimal digits of a natural number, the first one first. -/
def decimal (n : Nat) : List Nat := (Nat.toDigits 10 n).map fun c => c.toNat - 48

theorem digit?_digitChar {d : Nat} (h : d < 10) : digit? (Nat.digitChar d) = some d := by
  revert d
  decide

theorem toNat_of_isDigit {c : Char} (h : c.isDigit = true) : 48 ≤ c.toNat ∧ c.toNat ≤ 57 :=
  Char.isDigit_iff_toNat.mp h

theorem digitChar_of_isDigit {c : Char} (h : c.isDigit = true) : Nat.digitChar (c.toNat - 48) = c := by
  obtain ⟨hlow, hhigh⟩ := toNat_of_isDigit h
  apply Char.toNat_inj.mp
  rw [Nat.toNat_digitChar_of_lt_ten (by omega)]
  omega

theorem isDigit_of_mem_toDigits {n : Nat} {c : Char} (h : c ∈ Nat.toDigits 10 n) :
    c.isDigit = true := Nat.isDigit_of_mem_toDigits (by decide) (by decide) h

theorem map_digitChar_decimal (n : Nat) : (decimal n).map Nat.digitChar = Nat.toDigits 10 n := by
  rw [decimal, List.map_map]
  exact (List.map_congr_left fun c hc => digitChar_of_isDigit (isDigit_of_mem_toDigits hc)).trans
    (List.map_id _)

theorem lt_ten_of_mem_decimal {n d : Nat} (h : d ∈ decimal n) : d < 10 := by
  obtain ⟨c, hc, rfl⟩ := List.mem_map.mp h
  obtain ⟨hlow, hhigh⟩ := toNat_of_isDigit (isDigit_of_mem_toDigits hc)
  omega

theorem decimal_ne_nil (n : Nat) : decimal n ≠ [] :=
  fun h => Nat.toDigits_ne_nil (List.map_eq_nil_iff.mp h)

theorem valueOf_decimal (n : Nat) : valueOf 10 (decimal n) = n := by
  rw [valueOf, decimal, List.foldl_map]
  exact Nat.ofDigitChars_eq_foldl.symm.trans Nat.ofDigitChars_ten_toDigits

/-- Only zero is written with a leading zero. -/
theorem eq_zero_of_toDigits {n : Nat} {cs : List Char} (h : Nat.toDigits 10 n = '0' :: cs) :
    n = 0 := by
  -- Induction on the number of digits: the first digit of `n` is the one of `n / 10`.
  induction n using Nat.strongRecOn generalizing cs with
  | ind n ih =>
    rw [Nat.toDigits_eq_if (by decide)] at h
    split at h
    · exact Nat.digitChar_eq_zero.mp (List.cons.inj h).1
    · next hn =>
      obtain ⟨c, ds, hds⟩ := List.exists_cons_of_ne_nil (Nat.toDigits_ne_nil (n := n / 10) (b := 10))
      rw [hds, List.cons_append] at h
      obtain rfl := (List.cons.inj h).1
      have := ih (n / 10) (by omega) hds
      omega

theorem eq_zero_of_decimal {n : Nat} {ds : List Nat} (h : decimal n = 0 :: ds) : n = 0 := by
  have hchars := congrArg (List.map Nat.digitChar) h
  rw [map_digitChar_decimal, List.map_cons] at hchars
  exact eq_zero_of_toDigits hchars

theorem decimal_of_ne_zero {n : Nat} (h : n ≠ 0) : ∃ d ds, decimal n = (d + 1) :: ds := by
  obtain ⟨d, ds, hds⟩ := List.exists_cons_of_ne_nil (decimal_ne_nil n)
  cases d with
  | zero => exact absurd (eq_zero_of_decimal hds) h
  | succ d => exact ⟨d, ds, hds⟩

end Text

namespace Json

/-! ### Numerals -/

/-- A part of a text does not go on with anything that could belong to a number before it. -/
def Ends (rest : List Char) : Prop := ∀ c cs, rest = c :: cs → c = ',' ∨ c = ']' ∨ c = '\x7d'

theorem ends_nil : Ends [] := nofun

theorem ends_cons {c : Char} (h : c = ',' ∨ c = ']' ∨ c = '\x7d') (cs : List Char) :
    Ends (c :: cs) := by
  rintro _ _ ⟨⟩
  exact h

namespace Numeral

/-- The point and the digits after it, as they are written. -/
def fractionChars : Option (List Nat) → List Char
  | none => []
  | some ds => '.' :: ds.map Nat.digitChar

/-- The power of ten, as it is written: its sign is never left out. -/
def exponentChars : Option Int → List Char
  | none => []
  | some e => 'e' :: (if e < 0 then '-' else '+') :: (Text.decimal e.natAbs).map Nat.digitChar

/-- The numeral as it is written, after its sign. -/
def unsigned (n : Numeral) : List Char :=
  n.whole.map Nat.digitChar ++ (fractionChars n.fraction ++ exponentChars n.exponent)

/-- The numeral as it is written. -/
def chars (n : Numeral) : List Char := (if n.negative then ['-'] else []) ++ n.unsigned

/-- The parts of the numeral can be told apart when it is written. -/
structure Proper (n : Numeral) : Prop where
  /-- There is a digit before the point. -/
  whole_ne_nil : n.whole ≠ []
  /-- The digits before the point are digits. -/
  whole_lt : ∀ d ∈ n.whole, d < 10
  /-- A leading zero stands alone. -/
  leading : ∀ ds, n.whole = 0 :: ds → ds = []
  /-- After a point there is a digit. -/
  fraction_ne_nil : ∀ ds, n.fraction = some ds → ds ≠ []
  /-- The digits after the point are digits. -/
  fraction_lt : ∀ ds, n.fraction = some ds → ∀ d ∈ ds, d < 10

end Numeral

namespace Outline

open Numeral

/-- Digits are scanned up to the first character that is none. -/
theorem digits_append {ds : List Nat} (hds : ∀ d ∈ ds, d < 10) {rest : List Char}
    (hrest : ∀ c cs, rest = c :: cs → Text.digit? c = none) :
    digits (ds.map Nat.digitChar ++ rest) = (ds, rest) := by
  induction ds with
  | nil =>
    cases rest with
    | nil => rfl
    | cons c cs => rw [List.map_nil, List.nil_append, digits, hrest c cs rfl]
  | cons d ds ih =>
    rw [List.map_cons, List.cons_append, digits, Text.digit?_digitChar (hds d List.mem_cons_self),
      ih fun d' hd' => hds d' (List.mem_cons_of_mem d hd')]

theorem fraction_of_ne {cs : List Char} (h : ∀ cs', cs ≠ '.' :: cs') :
    fraction cs = .ok (none, cs) := by
  unfold fraction
  split
  · next cs' => exact absurd rfl (h cs')
  · rfl

theorem exponent_of_ne {cs : List Char} (he : ∀ cs', cs ≠ 'e' :: cs') (hE : ∀ cs', cs ≠ 'E' :: cs') :
    exponent cs = .ok (none, cs) := by
  unfold exponent
  split
  · next cs' => exact absurd rfl (he cs')
  · next cs' => exact absurd rfl (hE cs')
  · rfl

variable {rest : List Char}

theorem fraction_fractionChars {f : Option (List Nat)} (hne : ∀ ds, f = some ds → ds ≠ [])
    (hlt : ∀ ds, f = some ds → ∀ d ∈ ds, d < 10) (hdot : ∀ cs, rest ≠ '.' :: cs)
    (hdigit : ∀ c cs, rest = c :: cs → Text.digit? c = none) :
    fraction (fractionChars f ++ rest) = .ok (f, rest) := by
  cases f with
  | none => exact fraction_of_ne hdot
  | some ds =>
    rw [fractionChars, List.cons_append, fraction, digits_append (hlt ds rfl) hdigit]
    cases ds with
    | nil => exact absurd rfl (hne [] rfl)
    | cons d ds => rfl

theorem exponent_exponentChars {e : Option Int} (he : ∀ cs, rest ≠ 'e' :: cs)
    (hE : ∀ cs, rest ≠ 'E' :: cs) (hdigit : ∀ c cs, rest = c :: cs → Text.digit? c = none) :
    exponent (exponentChars e ++ rest) = .ok (e, rest) := by
  cases e with
  | none => exact exponent_of_ne he hE
  | some e =>
    have hdigits := digits_append (fun d => Text.lt_ten_of_mem_decimal (n := e.natAbs)) hdigit
    obtain ⟨d, ds, hds⟩ := List.exists_cons_of_ne_nil (Text.decimal_ne_nil e.natAbs)
    have hvalue := Text.valueOf_decimal e.natAbs
    rw [hds] at hdigits hvalue
    rw [exponentChars, hds]
    by_cases hneg : e < 0
    all_goals
      simp only [hneg, if_true, if_false, List.cons_append, exponent, hdigits, hvalue]
      congr 3
      omega

/-- What can stand behind the digits before a point. -/
theorem eq_of_fractionChars (hends : Ends rest) {f : Option (List Nat)} {e : Option Int} {c : Char}
    {cs : List Char} (h : fractionChars f ++ (exponentChars e ++ rest) = c :: cs) :
    c ∈ ['.', 'e', ',', ']', '\x7d'] := by
  cases f with
  | some ds =>
    obtain rfl := (List.cons.inj h).1
    decide
  | none =>
    cases e with
    | some e =>
      obtain rfl := (List.cons.inj h).1
      decide
    | none =>
      obtain rfl | rfl | rfl := hends c cs h
      all_goals decide

/-- **A numeral is scanned as it is written.** -/
theorem readNumber_unsigned {n : Numeral} (hn : n.Proper) (hends : Ends rest) :
    readNumber n.negative (n.unsigned ++ rest) = (ofNumeral n, some rest) := by
  obtain ⟨negative, whole, f, e⟩ := n
  have hstop : ∀ c ∈ ['.', 'e', ',', ']', '\x7d'], Text.digit? c = none := by
    simp only [List.forall_mem_cons]
    exact ⟨rfl, rfl, rfl, rfl, rfl, nofun⟩
  have hrest : ∀ c ∈ ['.', 'e', 'E'], ∀ cs, rest ≠ c :: cs := by
    rintro c hc cs rfl
    obtain rfl | rfl | rfl := hends c cs rfl
    all_goals exact absurd hc (by decide)
  have hdot : ∀ cs, exponentChars e ++ rest ≠ '.' :: cs := by
    intro cs h
    cases e with
    | none => exact hrest '.' (by decide) cs h
    | some e => exact nomatch h
  have hwhole := digits_append hn.whole_lt fun c cs h =>
    hstop c (eq_of_fractionChars (f := f) (e := e) hends h)
  have hfraction := fraction_fractionChars hn.fraction_ne_nil hn.fraction_lt hdot
    fun c cs h => hstop c (eq_of_fractionChars (f := none) hends h)
  have hexponent := exponent_exponentChars (e := e) (hrest 'e' (by decide)) (hrest 'E' (by decide))
    fun c cs h => hstop c (eq_of_fractionChars (f := none) (e := none) hends h)
  rw [unsigned, List.append_assoc, List.append_assoc, readNumber, hwhole]
  match whole, hn.whole_ne_nil, hn.leading with
  | [0], _, _ => simp only [hfraction, hexponent]
  | 0 :: _ :: _, _, hleading => exact nomatch hleading _ rfl
  | (_ + 1) :: _, _, _ => simp only [hfraction, hexponent]

end Outline

end Json

end RemoteFlags
