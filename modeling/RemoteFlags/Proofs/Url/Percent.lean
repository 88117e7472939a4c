import RemoteFlags.Url.Percent

/-!
# Reading percent-encoded texts back

Decoding undoes encoding: the bytes that an encoded text stands for are those of the text before.  It
takes that the percent sign itself is encoded, and everything outside ASCII; so the sets for texts that
are to be segments of a path are reversible, whereas those for parts of a URL that is written already
are not, since they leave a percent sign as it is.

## Main definitions

* `Reversible set` — what is left as it is, is ASCII and no percent sign.

## Main results

* `Text.utf8Chars_injective` — a text is determined by its bytes.
* `percentDecode_percentEncode` — **decoding undoes encoding.**
* `percentEncode_injective` — no two texts are encoded alike.
* `not_mem_percentEncode` — an encoded character does not occur in what is written.
-/

namespace RemoteFlags

/-! ### Bytes of texts -/

namespace Text

@[simp] theorem utf8Chars_nil : utf8Chars [] = [] := rfl

theorem utf8Chars_append (cs ds : List Char) :
    utf8Chars (cs ++ ds) = utf8Chars cs ++ utf8Chars ds := List.flatMap_append

theorem utf8Chars_cons (c : Char) (cs : List Char) :
    utf8Chars (c :: cs) = utf8Chars [c] ++ utf8Chars cs := utf8Chars_append [c] cs

theorem utf8Chars_of_ascii {c : Char} (h : c.toNat < 0x80) :
    utf8Chars [c] = [UInt8.ofNat c.toNat] := by
  have hone : c.toNat ≤ 127 := Nat.le_of_lt_succ h
  simp [utf8Chars, String.utf8EncodeChar, Nat.not_lt.mpr hone]

theorem utf8Chars_injective {cs ds : List Char} (h : utf8Chars cs = utf8Chars ds) : cs = ds := by
  have hbytes : (String.ofList cs).toByteArray = (String.ofList ds).toByteArray := by
    rw [String.toByteArray_ofList, String.toByteArray_ofList]
    exact congrArg List.toByteArray h
  exact String.ofList_injective (String.toByteArray_inj.mp hbytes)

/-! ### Hexadecimal digits -/

/-- The digits that bytes are written with. -/
def upperHexDigits : List Char := "0123456789ABCDEF".toList

theorem hexDigit?_upperHexChar : ∀ n < 16, hexDigit? (upperHexChar n) = some n := by decide

theorem upperHexChar_ascii : ∀ n < 16, (upperHexChar n).toNat < 0x80 := by decide

theorem upperHexChar_mem : ∀ n < 16, upperHexChar n ∈ upperHexDigits := by decide

end Text

namespace Url

open Text

/-! ### Single bytes -/

/-- The byte of an ASCII character is a digit when the character is. -/
theorem hexByte?_of_ascii {c : Char} (h : c.toNat < 0x80) :
    hexByte? (UInt8.ofNat c.toNat) = hexDigit? c := by
  have hbyte : (UInt8.ofNat c.toNat).toNat = c.toNat := by
    rw [UInt8.toNat_ofNat']
    exact Nat.mod_eq_of_lt (by omega)
  rw [hexByte?, hbyte, Char.ofNat_toNat]

/-- Only a percent sign begins an encoded byte. -/
theorem percentDecode_cons_of_ne {a : UInt8} (h : a ≠ 0x25) (bs : List UInt8) :
    percentDecode (a :: bs) = a :: percentDecode bs := by
  match bs with
  | [] => rfl
  | [_] => rfl
  | b :: c :: bs =>
    rw [percentDecode]
    split
    · rw [if_neg h]
    · rfl

theorem percentDecode_percentByte (b : UInt8) (bs : List UInt8) :
    percentDecode (utf8Chars (percentByte b) ++ bs) = b :: percentDecode bs := by
  have hhigh : b.toNat / 16 < 16 := by have := b.toNat_lt; omega
  have hlow : b.toNat % 16 < 16 := Nat.mod_lt _ (by decide)
  have hbytes : utf8Chars (percentByte b) ++ bs =
      0x25 :: UInt8.ofNat (upperHexChar (b.toNat / 16)).toNat ::
        UInt8.ofNat (upperHexChar (b.toNat % 16)).toNat :: bs := by
    rw [percentByte, utf8Chars_cons, utf8Chars_cons (upperHexChar (b.toNat / 16)),
      utf8Chars_of_ascii (upperHexChar_ascii _ hhigh), utf8Chars_of_ascii (upperHexChar_ascii _ hlow)]
    rfl
  have hvalue : UInt8.ofNat (16 * (b.toNat / 16) + b.toNat % 16) = b := by
    rw [Nat.div_add_mod, UInt8.ofNat_toNat]
  rw [hbytes, percentDecode, hexByte?_of_ascii (upperHexChar_ascii _ hhigh),
    hexByte?_of_ascii (upperHexChar_ascii _ hlow), hexDigit?_upperHexChar _ hhigh,
    hexDigit?_upperHexChar _ hlow]
  simp only [if_true, hvalue]

theorem percentDecode_percentBytes (as bs : List UInt8) :
    percentDecode (utf8Chars (as.flatMap percentByte) ++ bs) = as ++ percentDecode bs := by
  induction as with
  | nil => rfl
  | cons a as ih =>
    rw [List.flatMap_cons, utf8Chars_append, List.append_assoc, percentDecode_percentByte, ih]
    rfl

/-! ### Texts -/

/-- A set whose encoding can be undone: characters outside it are ASCII and no percent signs. -/
def Reversible (set : Char → Bool) : Prop := ∀ c, set c = false → c.toNat < 0x80 ∧ c ≠ '%'

theorem reversible_inSegment : Reversible inSegment := by
  intro c h
  simp only [inSegment, inPath, inQuery, isControl, Bool.or_eq_false_iff, decide_eq_false_iff_not,
    beq_eq_false_iff_ne] at h
  obtain ⟨⟨⟨⟨⟨-, hascii⟩, -⟩, -⟩, -⟩, hpercent⟩ := h
  exact ⟨by omega, hpercent⟩

theorem reversible_inSpecialSegment : Reversible inSpecialSegment := by
  intro c h
  rw [inSpecialSegment, Bool.or_eq_false_iff] at h
  exact reversible_inSegment c h.1

variable {set : Char → Bool}

theorem percentDecode_percentChar (hset : Reversible set) (c : Char) (bs : List UInt8) :
    percentDecode (utf8Chars (percentChar set c) ++ bs) = utf8Chars [c] ++ percentDecode bs := by
  unfold percentChar
  split
  · exact percentDecode_percentBytes _ bs
  · next h =>
    obtain ⟨hascii, hpercent⟩ := hset c (by simpa using h)
    have hbyte : UInt8.ofNat c.toNat ≠ 0x25 := by
      intro heq
      have hcode : c.toNat = 0x25 := by
        have hnat := congrArg UInt8.toNat heq
        rw [UInt8.toNat_ofNat', Nat.mod_eq_of_lt (by omega)] at hnat
        exact hnat
      exact hpercent (by rw [← Char.ofNat_toNat c, hcode])
    rw [utf8Chars_of_ascii hascii]
    exact percentDecode_cons_of_ne hbyte bs

/-- **Decoding undoes encoding.** -/
theorem percentDecode_percentEncode (hset : Reversible set) (cs : List Char) :
    percentDecode (utf8Chars (percentEncode set cs)) = utf8Chars cs := by
  -- Induction on the characters; the bytes of the rest are what follows the first one.
  induction cs with
  | nil => rfl
  | cons c cs ih =>
    rw [percentEncode, List.flatMap_cons, utf8Chars_append, percentDecode_percentChar hset c,
      utf8Chars_cons c cs]
    exact congrArg (utf8Chars [c] ++ ·) ih

theorem percentEncode_injective (hset : Reversible set) {cs ds : List Char}
    (h : percentEncode set cs = percentEncode set ds) : cs = ds := by
  apply utf8Chars_injective
  rw [← percentDecode_percentEncode hset cs, h, percentDecode_percentEncode hset ds]

/-- A character of what is written was left as it is, or writes a byte. -/
theorem mem_percentEncode {c : Char} {cs : List Char} (h : c ∈ percentEncode set cs) :
    (c ∈ cs ∧ set c = false) ∨ c = '%' ∨ c ∈ upperHexDigits := by
  obtain ⟨d, hd, hc⟩ := List.mem_flatMap.mp h
  unfold percentChar at hc
  split at hc
  · obtain ⟨b, -, hb⟩ := List.mem_flatMap.mp hc
    have hhigh : b.toNat / 16 < 16 := by have := b.toNat_lt; omega
    simp only [percentByte, List.mem_cons, List.not_mem_nil, or_false] at hb
    rcases hb with rfl | rfl | rfl
    · exact .inr (.inl rfl)
    · exact .inr (.inr (upperHexChar_mem _ hhigh))
    · exact .inr (.inr (upperHexChar_mem _ (Nat.mod_lt _ (by decide))))
  · next hset =>
    obtain rfl : c = d := by simpa using hc
    exact .inl ⟨hd, by simpa using hset⟩

theorem not_mem_percentEncode {c : Char} (hset : set c = true) (hpercent : c ≠ '%')
    (hdigit : c ∉ upperHexDigits) (cs : List Char) : c ∉ percentEncode set cs := by
  intro h
  rcases mem_percentEncode h with ⟨-, hleft⟩ | heq | hmem
  · rw [hset] at hleft
    exact Bool.noConfusion hleft
  · exact hpercent heq
  · exact hdigit hmem

/-- No separator appears that was not there. -/
theorem mem_of_mem_percentEncode {c : Char} (hpercent : c ≠ '%') (hdigit : c ∉ upperHexDigits)
    {cs : List Char} (h : c ∈ percentEncode set cs) : c ∈ cs := by
  rcases mem_percentEncode h with ⟨hc, -⟩ | heq | hmem
  · exact hc
  · exact absurd heq hpercent
  · exact absurd hmem hdigit

end Url

end RemoteFlags
