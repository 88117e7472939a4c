import RemoteFlags.Text.Utf8

/-!
# The order of bytes

Texts are compared by their characters, bytes sequences by their bytes.  UTF-8 is made so that it
does not matter which of the two is compared.

## Main results

* `Text.utf8_lt_utf8` — the bytes of texts have the order of the texts.
-/

namespace RemoteFlags.Text

theorem toNat_lt_of_valid (c : Char) : c.val.toNat < 0x110000 := by
  rcases c.valid with h | h
  · exact Nat.lt_trans h (by decide)
  · exact h.2

/-- The numbers of characters are compared by their digits to the base 64, the highest ones first. -/
theorem digits_lt_of_lt {m n : Nat} (h : m < n) (hn : n < 0x110000) :
    m / 262144 % 8 < n / 262144 % 8 ∨ m / 262144 % 8 = n / 262144 % 8 ∧
      (m / 4096 % 64 < n / 4096 % 64 ∨ m / 4096 % 64 = n / 4096 % 64 ∧
        (m / 64 % 64 < n / 64 % 64 ∨ m / 64 % 64 = n / 64 % 64 ∧ m % 64 < n % 64)) := by
  have hfirst : m / 262144 ≤ n / 262144 := Nat.div_le_div_right (Nat.le_of_lt h)
  have hm : m / 262144 % 8 = m / 262144 := Nat.mod_eq_of_lt (by omega)
  have hn : n / 262144 % 8 = n / 262144 := Nat.mod_eq_of_lt (by omega)
  rw [hm, hn]
  omega

/-- The bytes of two characters differ before either sequence ends, so that what follows does not
count. -/
theorem utf8EncodeChar_append_lt {c d : Char} (h : c < d) (xs ys : List UInt8) :
    String.utf8EncodeChar c ++ xs < String.utf8EncodeChar d ++ ys := by
  have hlt : c.val.toNat < d.val.toNat := h
  have hbound := toNat_lt_of_valid d
  unfold String.utf8EncodeChar
  generalize c.val.toNat = m at hlt ⊢
  generalize d.val.toNat = n at hlt hbound ⊢
  -- The highest digit in which the numbers differ decides, and every digit fits its byte.
  have hdigits := digits_lt_of_lt hlt hbound
  have hlead₂ : ∀ k, (k % 32 + 192) % 2 ^ 8 = k % 32 + 192 := by omega
  have hlead₃ : ∀ k, (k % 16 + 224) % 2 ^ 8 = k % 16 + 224 := by omega
  have hlead₄ : ∀ k, (k % 8 + 240) % 2 ^ 8 = k % 8 + 240 := by omega
  have htrail : ∀ k, (k % 64 + 128) % 2 ^ 8 = k % 64 + 128 := by omega
  dsimp only
  repeat' split
  all_goals
    simp only [List.cons_append, List.nil_append, List.cons_lt_cons_iff, UInt8.lt_iff_toNat_lt,
      ← UInt8.toNat_inj, UInt8.toNat_ofNat', hlead₂, hlead₃, hlead₄, htrail]
    omega

theorem utf8Chars_lt_utf8Chars {cs ds : List Char} (h : cs < ds) : utf8Chars cs < utf8Chars ds := by
  induction cs generalizing ds with
  | nil =>
    cases ds with
    | nil => exact absurd h (List.lt_irrefl _)
    | cons d ds =>
      cases hbytes : utf8Chars (d :: ds) with
      | nil =>
        have hlength := congrArg List.length hbytes
        have hpos := Char.utf8Size_pos d
        simp [utf8Chars, String.length_utf8EncodeChar] at hlength
        omega
      | cons b bs => exact List.nil_lt_cons b bs
  | cons c cs ih =>
    cases ds with
    | nil => exact absurd h (List.not_lt_nil _)
    | cons d ds =>
      rw [List.cons_lt_cons_iff] at h
      obtain hlt | ⟨rfl, hlt⟩ := h
      · exact utf8EncodeChar_append_lt hlt _ _
      · exact List.append_left_lt (ih hlt)

/-- The bytes of texts have the order of the texts. -/
theorem utf8_lt_utf8 {s t : String} (h : s < t) : utf8 s < utf8 t :=
  utf8Chars_lt_utf8Chars h

end RemoteFlags.Text
