import Mathlib.Data.List.TakeWhile
import Mathlib.Data.Nat.Digits.Defs
import RemoteFlags.Proofs.Json.NumeralText
import RemoteFlags.Text.Blank

/-!
# Numbers in texts

Settings and header fields hold numbers as texts: decimal digits, perhaps with a plus sign in front
and white space around them.  The digits may begin with zeros, so a number has many texts; a text is
that of at most one number.

## Main definitions

* `IsNumeral cs n` — decimal digits that write a number.

## Main results

* `natural?_eq_some_iff`, `signedNatural?_eq_some_iff` — **what is read as a number.**
* `trimBy_append`, `exists_trimBy` — what is left of a text without white space around it.
-/

namespace RemoteFlags.Text

/-! ### Digits -/

/-- One or more decimal digits, the first one first, that write a number. -/
def IsNumeral (cs : List Char) (n : Nat) : Prop :=
  ∃ ds : List Nat, ds ≠ [] ∧ (∀ d ∈ ds, d < 10) ∧ cs = ds.map Nat.digitChar ∧
    Nat.ofDigits 10 ds.reverse = n

theorem digit?_eq_some_iff {c : Char} {d : Nat} :
    digit? c = some d ↔ d < 10 ∧ c = Nat.digitChar d := by
  constructor
  · intro h
    unfold digit? at h
    split at h
    · next hc =>
      obtain rfl := Option.some.inj h
      have hlow : 48 ≤ c.toNat := hc.1
      have hhigh : c.toNat ≤ 57 := hc.2
      exact ⟨by omega, (digitChar_of_isDigit (Char.isDigit_iff_toNat.mpr ⟨hlow, hhigh⟩)).symm⟩
    · cases h
  · rintro ⟨hd, rfl⟩
    exact digit?_digitChar hd

theorem mapM_digit?_eq_some_iff {cs : List Char} {ds : List Nat} :
    cs.mapM digit? = some ds ↔ (∀ d ∈ ds, d < 10) ∧ cs = ds.map Nat.digitChar := by
  induction cs generalizing ds with
  | nil => cases ds <;> simp
  | cons c cs ih =>
    rw [List.mapM_cons]
    cases ds with
    | nil => simp [Option.bind_eq_some_iff]
    | cons d ds =>
      simp only [Option.bind_eq_bind, Option.bind_eq_some_iff, digit?_eq_some_iff, ih,
        Option.pure_def, Option.some.injEq, List.cons.injEq, List.map_cons, List.forall_mem_cons]
      constructor
      · rintro ⟨d', ⟨hd, rfl⟩, ds', ⟨hds, rfl⟩, rfl, rfl⟩
        exact ⟨⟨hd, hds⟩, rfl, rfl⟩
      · rintro ⟨⟨hd, hds⟩, rfl, rfl⟩
        exact ⟨d, ⟨hd, rfl⟩, ds, ⟨hds, rfl⟩, rfl, rfl⟩

theorem valueOf_eq_ofDigits (ds : List Nat) : valueOf 10 ds = Nat.ofDigits 10 ds.reverse := by
  rw [Nat.ofDigits_eq_foldr, List.foldr_reverse, valueOf]
  exact congrArg (List.foldl · 0 ds) (funext₂ fun n d => Nat.add_comm _ _)

/-- **What is read as a natural number** are its numerals. -/
theorem natural?_eq_some_iff {cs : List Char} {n : Nat} :
    natural? cs = some n ↔ IsNumeral cs n := by
  cases cs with
  | nil =>
    refine ⟨nofun, ?_⟩
    rintro ⟨ds, hne, -, hcs, -⟩
    exact absurd (List.map_eq_nil_iff.mp hcs.symm) hne
  | cons c cs =>
    rw [natural?, numeral?, Option.map_eq_some_iff]
    · simp only [mapM_digit?_eq_some_iff, valueOf_eq_ofDigits]
      constructor
      · rintro ⟨ds, ⟨hds, hcs⟩, hn⟩
        refine ⟨ds, ?_, hds, hcs, hn⟩
        rintro rfl
        cases hcs
      · rintro ⟨ds, -, hds, hcs, hn⟩
        exact ⟨ds, ⟨hds, hcs⟩, hn⟩
    · exact nofun

variable {cs : List Char} {n : Nat}

theorem IsNumeral.ne_nil (h : IsNumeral cs n) : cs ≠ [] := by
  obtain ⟨ds, hne, -, rfl, -⟩ := h
  exact fun hmap => hne (List.map_eq_nil_iff.mp hmap)

theorem IsNumeral.isDigit_of_mem (h : IsNumeral cs n) {c : Char} (hc : c ∈ cs) :
    c.isDigit = true := by
  obtain ⟨ds, -, hds, rfl, -⟩ := h
  obtain ⟨d, hd, rfl⟩ := List.mem_map.mp hc
  have hlt := hds d hd
  generalize d = e at hlt
  revert e
  decide

/-- A text with a sign or without it is read as the number that its digits write. -/
theorem signedNatural?_eq_some_iff {s : String} :
    signedNatural? s = some n ↔
      ∃ sign digits, s.toList = sign ++ digits ∧ (sign = [] ∨ sign = ['+']) ∧
        IsNumeral digits n := by
  unfold signedNatural?
  split
  · next cs heq =>
    rw [natural?_eq_some_iff, heq]
    constructor
    · intro h
      exact ⟨['+'], cs, rfl, .inr rfl, h⟩
    · rintro ⟨sign, digits, hcs, rfl | rfl, h⟩
      · -- A plus sign is no digit.
        rw [List.nil_append] at hcs
        exact absurd (h.isDigit_of_mem (hcs ▸ List.mem_cons_self)) (by decide)
      · obtain rfl := (List.cons.inj hcs).2
        exact h
  · next hplus =>
    rw [natural?_eq_some_iff]
    constructor
    · intro h
      exact ⟨[], s.toList, rfl, .inl rfl, h⟩
    · rintro ⟨sign, digits, hcs, rfl | rfl, h⟩
      · rw [List.nil_append] at hcs
        rwa [hcs]
      · exact absurd hcs (hplus digits)

/-! ### White space around a text -/

section

variable {p : Char → Bool} {before core after : List Char}

theorem dropWhile_append_cons {c : Char} (hbefore : ∀ d ∈ before, p d = true) (hc : p c = false)
    (rest : List Char) : (before ++ c :: rest).dropWhile p = c :: rest := by
  rw [List.dropWhile_append_of_pos hbefore, List.dropWhile_cons_of_neg (by simp [hc])]

/-- What stands between characters to be removed is left, if it has none of them. -/
theorem trimBy_append (hbefore : ∀ c ∈ before, p c = true) (hafter : ∀ c ∈ after, p c = true)
    (hcore : ∀ c ∈ core, p c = false) (hne : core ≠ []) :
    trimBy p (before ++ core ++ after) = core := by
  obtain ⟨c, cs, rfl⟩ := List.exists_cons_of_ne_nil hne
  obtain ⟨d, ds, hds⟩ := List.exists_cons_of_ne_nil (mt List.reverse_eq_nil_iff.mp hne)
  have hd : p d = false := by
    apply hcore
    rw [← List.mem_reverse, hds]
    exact List.mem_cons_self
  have hback : ∀ c ∈ after.reverse, p c = true := fun c hc => hafter c (List.mem_reverse.mp hc)
  calc
    trimBy p (before ++ c :: cs ++ after)
      = ((c :: (cs ++ after)).reverse.dropWhile p).reverse := by
        rw [trimBy, List.append_assoc, List.cons_append,
          dropWhile_append_cons hbefore (hcore c List.mem_cons_self)]
    _ = ((after.reverse ++ d :: ds).dropWhile p).reverse := by
        rw [← List.cons_append, List.reverse_append, hds]
    _ = c :: cs := by
        rw [dropWhile_append_cons hback hd, ← hds, List.reverse_reverse]

/-- Only characters to be removed are removed. -/
theorem exists_trimBy (p : Char → Bool) (cs : List Char) :
    ∃ before after, cs = before ++ trimBy p cs ++ after ∧ (∀ c ∈ before, p c = true) ∧
      ∀ c ∈ after, p c = true := by
  refine ⟨cs.takeWhile p, ((cs.dropWhile p).reverse.takeWhile p).reverse, ?_, ?_, ?_⟩
  · rw [trimBy, List.append_assoc, ← List.reverse_append, List.takeWhile_append_dropWhile,
      List.reverse_reverse, List.takeWhile_append_dropWhile]
  · exact fun c hc => List.mem_takeWhile_imp hc
  · exact fun c hc => List.mem_takeWhile_imp (List.mem_reverse.mp hc)

end

theorem isBlank_of_isDigit {c : Char} (h : c.isDigit = true) : isBlank c = false := by
  obtain ⟨hlow, hhigh⟩ := toNat_of_isDigit h
  simp [isBlank, inRanges, blankRanges]
  omega

/-- There is no white space around a numeral. -/
theorem trim_of_isNumeral {s : String} (h : IsNumeral s.toList n) : trim s = s := by
  have hcore : ∀ c ∈ s.toList, isBlank c = false := fun c hc =>
    isBlank_of_isDigit (h.isDigit_of_mem hc)
  have htrim : trimBy isBlank ([] ++ s.toList ++ []) = s.toList :=
    trimBy_append nofun nofun hcore h.ne_nil
  rw [List.nil_append, List.append_nil] at htrim
  rw [trim, htrim, String.ofList_toList]

end RemoteFlags.Text
